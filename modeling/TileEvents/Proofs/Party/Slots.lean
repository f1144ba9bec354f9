/-
  TileEvents.Proofs.Party.Slots
  ─────────────────────────────
  **WHAT A REMOVAL MAKES OF A LIST OF SLOTS.**

  A removal empties the slots it comes to until it has enough, so that what it
  takes from a slot depends on the copies in front of the slot alone.  Slots
  that end empty vanish from the list.  An account of a removal says all the
  same, slot by slot, what there was and what is left: it is a relation between
  the list before and the list after, and any two lists have at most one.

    • `drain_cons`           — a removal, one slot at a time;
    • `missing_take`, `count_take` — what it lacks and what it leaves;
    • `take_account`         — a removal has an account;
    • `Account.unique`       — two lists have only one;
    • `curseLifted_take`     — a removal knows whether a cursed slot paid.
-/
import TileEvents.Party.Pack
import Mathlib.Tactic.ByContra

namespace TileEvents

/-! ## §1. Copies in slots. -/

namespace ItemSlot

/-- The copies of `item` in a list of slots. -/
def count (item : UInt16) (slots : List ItemSlot) : Nat :=
  Word.total ((slots.filter (·.item == item)).map (·.amount.toNat))

/-- The copies of `item` in one slot. -/
def copies (item : UInt16) (s : ItemSlot) : Nat := if s.item = item then s.amount.toNat else 0

/-- The slot is not empty. -/
def isFilled (s : ItemSlot) : Bool := decide (0 < s.amount.toNat)

theorem count_cons (item : UInt16) (s : ItemSlot) (rest : List ItemSlot) :
    count item (s :: rest) = s.copies item + count item rest := by
  unfold count copies
  by_cases h : s.item = item
  · simp [h, Word.total]
  · simp [h]

/-- Slots with the same fields are the same. -/
theorem eq_of_fields {s t : ItemSlot} (hitem : s.item = t.item)
    (hamount : s.amount.toNat = t.amount.toNat) (hcursed : s.cursed = t.cursed) : s = t := by
  obtain ⟨_, _, _⟩ := s
  obtain ⟨_, _, _⟩ := t
  exact ItemSlot.mk.injEq .. ▸ ⟨hitem, UInt16.toNat_inj.1 hamount, hcursed⟩

theorem copies_le (item : UInt16) (s : ItemSlot) : s.copies item ≤ s.amount.toNat := by
  unfold copies
  split <;> omega

/-- Empty slots hold no copies. -/
theorem count_filter_isFilled (item : UInt16) (slots : List ItemSlot) :
    count item (slots.filter isFilled) = count item slots := by
  induction slots with
  | nil => rfl
  | cons s rest ih =>
      by_cases h : s.isFilled = true
      · rw [List.filter_cons_of_pos h, count_cons, count_cons, ih]
      · have hempty : s.amount.toNat = 0 := by simpa [isFilled] using h
        have hcopies := s.copies_le item
        rw [List.filter_cons_of_neg h, count_cons, ih]
        omega

/-- Among slots that are not empty, no copies means no slot of the item. -/
theorem item_ne_of_count {item : UInt16} {slots : List ItemSlot}
    (hfilled : ∀ s ∈ slots, 0 < s.amount.toNat) (h : count item slots = 0) :
    ∀ s ∈ slots, s.item ≠ item := by
  induction slots with
  | nil => exact List.forall_mem_nil _
  | cons s rest ih =>
      rw [List.forall_mem_cons] at hfilled ⊢
      rw [count_cons] at h
      refine ⟨?_, ih hfilled.2 (by omega)⟩
      intro hitem
      have hcopies : s.copies item = s.amount.toNat := if_pos hitem
      have hpos := hfilled.1
      omega

/-- The slot after `n` copies were taken from it. -/
def less (s : ItemSlot) (n : Nat) : ItemSlot :=
  ⟨s.item, s.amount - UInt16.ofNat n, s.cursed && decide (n = 0)⟩

theorem less_zero (s : ItemSlot) : s.less 0 = s := by
  simp [less]

theorem amount_less {s : ItemSlot} {n : Nat} (h : n ≤ s.amount.toNat) :
    (s.less n).amount.toNat = s.amount.toNat - n := by
  have hlt := s.amount.toNat_lt
  have hn : (UInt16.ofNat n).toNat = n := by
    rw [UInt16.toNat_ofNat']
    omega
  show (s.amount - UInt16.ofNat n).toNat = _
  rw [UInt16.toNat_sub_of_le, hn]
  rw [UInt16.le_iff_toNat_le, hn]
  exact h

theorem copies_less {item : UInt16} {s : ItemSlot} {n : Nat} (h : n ≤ s.copies item) :
    (s.less n).copies item = s.copies item - n := by
  have hamount := amount_less (Nat.le_trans h (s.copies_le item))
  unfold copies at h ⊢
  show (if s.item = item then (s.less n).amount.toNat else 0) = _
  split
  · exact hamount
  · exact (Nat.zero_sub n).symm

end ItemSlot

namespace Pack

/-! ## §2. One list. -/

/-- **A removal from a list, one slot at a time**: from the first slot comes what is wanted, or all
the copies it has, and the rest is taken from the others. -/
theorem drain_cons (item : UInt16) (wanted : Nat) (s : ItemSlot) (rest : List ItemSlot) :
    drain item wanted (s :: rest)
      = let n := min wanted (s.copies item)
        let r := drain item (wanted - n) rest
        ⟨s.less n :: r.slots, r.missing, s.cursed && decide (0 < n) || r.curseLifted⟩ := by
  rw [drain]
  by_cases h : s.item = item
  · have hcopies : s.copies item = s.amount.toNat := if_pos h
    have hcurse (n : Nat) :
        (s.cursed && !(s.cursed && decide (0 < n))) = (s.cursed && decide (n = 0)) := by
      cases s.cursed with
      | false => rfl
      | true =>
          rw [Bool.eq_iff_iff]
          simp
    simp only [h, beq_self_eq_true, if_true, hcurse, hcopies, ItemSlot.less]
  · have hcopies : s.copies item = 0 := if_neg h
    simp [h, hcopies, ItemSlot.less_zero]

/-- What is missing after a list is what the list did not have. -/
theorem missing_drain (item : UInt16) (wanted : Nat) (slots : List ItemSlot) :
    (drain item wanted slots).missing = wanted - ItemSlot.count item slots := by
  induction slots generalizing wanted with
  | nil => rfl
  | cons s rest ih =>
      rw [drain_cons, ItemSlot.count_cons]
      dsimp only
      rw [ih]
      omega

/-- What is left in a list is what was not wanted. -/
theorem count_drain (item : UInt16) (wanted : Nat) (slots : List ItemSlot) :
    ItemSlot.count item (drain item wanted slots).slots
      = ItemSlot.count item slots - wanted := by
  induction slots generalizing wanted with
  | nil => exact (Nat.zero_sub wanted).symm
  | cons s rest ih =>
      have hfirst := ItemSlot.copies_less (Nat.min_le_right wanted (s.copies item))
      rw [drain_cons, ItemSlot.count_cons, ItemSlot.count_cons, hfirst, ih]
      omega

theorem missing_take (item : UInt16) (wanted : Nat) (slots : List ItemSlot) :
    (take item wanted slots).missing = wanted - ItemSlot.count item slots :=
  missing_drain item wanted slots

theorem count_take (item : UInt16) (wanted : Nat) (slots : List ItemSlot) :
    ItemSlot.count item (take item wanted slots).slots = ItemSlot.count item slots - wanted :=
  (ItemSlot.count_filter_isFilled item _).trans (count_drain item wanted slots)

/-- No slot is left empty. -/
theorem take_filled (item : UInt16) (wanted : Nat) (slots : List ItemSlot) :
    ∀ s ∈ (take item wanted slots).slots, 0 < s.amount.toNat :=
  fun _ hs => of_decide_eq_true (List.mem_filter.1 hs).2

end Pack

/-! ## §3. One slot of an account. -/

/-- A slot before a removal and what is left of it, which may be nothing. -/
structure SlotTurn where
  before : ItemSlot
  left : ItemSlot

namespace SlotTurn

/-- The slot loses copies. -/
def Pays (t : SlotTurn) : Prop := t.left.amount.toNat < t.before.amount.toNat

/-- The slot is there afterwards, without the curse it had. -/
def Relieved (t : SlotTurn) : Prop :=
  t.before.cursed = true ∧ t.left.cursed = false ∧ 0 < t.left.amount.toNat

/-- **What a removal of copies of `item` may make of a slot**: it takes copies of that item alone,
and with them the curse. -/
structure Fair (item : UInt16) (t : SlotTurn) : Prop where
  item_eq : t.left.item = t.before.item
  amount_le : t.left.amount.toNat ≤ t.before.amount.toNat
  other : t.before.item ≠ item → t.left = t.before
  curse : t.left.cursed = true ↔ t.before.cursed = true ∧ ¬ t.Pays

/-- To take copies that are there is fair. -/
theorem fair_less {item : UInt16} {s : ItemSlot} {n : Nat} (h : n ≤ s.copies item) :
    Fair item ⟨s, s.less n⟩ := by
  have hamount := ItemSlot.amount_less (Nat.le_trans h (s.copies_le item))
  have hle := Nat.le_trans h (s.copies_le item)
  constructor
  · rfl
  · exact hamount ▸ Nat.sub_le _ _
  · intro hitem
    have hcopies : s.copies item = 0 := if_neg hitem
    have hzero : n = 0 := by omega
    rw [hzero]
    exact s.less_zero
  · show (s.cursed && decide (n = 0)) = true ↔ s.cursed = true ∧ ¬ (s.less n).amount.toNat < _
    rw [Bool.and_eq_true, decide_eq_true_eq, hamount]
    refine and_congr_right fun _ => ?_
    dsimp only
    omega

/-- A slot that pays nothing stays as it is. -/
theorem Fair.eq_of_not_pays {item : UInt16} {t : SlotTurn} (h : t.Fair item) (hpays : ¬ t.Pays) :
    t.left = t.before := by
  have hcursed : t.left.cursed = t.before.cursed := by
    rw [Bool.eq_iff_iff]
    exact h.curse.trans (and_iff_left hpays)
  exact ItemSlot.eq_of_fields h.item_eq (Nat.le_antisymm h.amount_le (Nat.not_lt.1 hpays)) hcursed

/-- What is left of a slot is the slot without the copies it paid. -/
theorem Fair.left_eq {item : UInt16} {t : SlotTurn} (h : t.Fair item) :
    t.left = t.before.less (t.before.copies item - t.left.copies item) := by
  by_cases hpays : t.Pays
  case neg =>
    rw [h.eq_of_not_pays hpays, Nat.sub_self, ItemSlot.less_zero]
  case pos =>
    -- only a slot of the item can pay
    have hitem : t.before.item = item := by
      by_contra hother
      have hsame := h.other hother
      unfold Pays at hpays
      rw [hsame] at hpays
      exact Nat.lt_irrefl _ hpays
    have hbefore : t.before.copies item = t.before.amount.toNat := if_pos hitem
    have hleft : t.left.copies item = t.left.amount.toNat := if_pos (h.item_eq.trans hitem)
    have hcursed : t.left.cursed = false := by
      rw [Bool.eq_false_iff]
      exact fun hcursed => (h.curse.1 hcursed).2 hpays
    have hpaid : t.before.amount.toNat - t.left.amount.toNat ≠ 0 := Nat.sub_ne_zero_of_lt hpays
    rw [hbefore, hleft]
    refine ItemSlot.eq_of_fields h.item_eq ?_ ?_
    · rw [ItemSlot.amount_less (Nat.sub_le _ _), Nat.sub_sub_self h.amount_le]
    · rw [hcursed]
      simp [ItemSlot.less, hpaid]

/-- Nobody gains copies. -/
theorem Fair.copies_le {item : UInt16} {t : SlotTurn} (h : t.Fair item) :
    t.left.copies item ≤ t.before.copies item := by
  unfold ItemSlot.copies
  rw [h.item_eq]
  split
  · exact h.amount_le
  · exact Nat.le_refl 0

end SlotTurn

/-! ## §4. Accounts. -/

namespace Pack

/-- **An account of copies of `item` taken from a list**: slot by slot what there was and what is
left, empty slots dropped from the list, and nothing left in front of a slot that pays. -/
structure Account (item : UInt16) (before after : List ItemSlot) (turns : List SlotTurn) :
    Prop where
  before_eq : turns.map SlotTurn.before = before
  after_eq : (turns.map SlotTurn.left).filter ItemSlot.isFilled = after
  fair : ∀ t ∈ turns, t.Fair item
  inOrder : turns.Pairwise fun t u => u.Pays → t.left.copies item = 0

/-- What becomes of the slots of a list from which `wanted` copies are taken. -/
def turns (item : UInt16) (wanted : Nat) (slots : List ItemSlot) : List SlotTurn :=
  slots.zipWith SlotTurn.mk (drain item wanted slots).slots

theorem turns_cons (item : UInt16) (wanted : Nat) (s : ItemSlot) (rest : List ItemSlot) :
    turns item wanted (s :: rest)
      = ⟨s, s.less (min wanted (s.copies item))⟩
        :: turns item (wanted - min wanted (s.copies item)) rest := by
  unfold turns
  rw [drain_cons]
  rfl

theorem turns_before (item : UInt16) (wanted : Nat) (slots : List ItemSlot) :
    (turns item wanted slots).map SlotTurn.before = slots := by
  induction slots generalizing wanted with
  | nil => rfl
  | cons s rest ih => rw [turns_cons, List.map_cons, ih]

theorem turns_left (item : UInt16) (wanted : Nat) (slots : List ItemSlot) :
    (turns item wanted slots).map SlotTurn.left = (drain item wanted slots).slots := by
  induction slots generalizing wanted with
  | nil => rfl
  | cons s rest ih => rw [turns_cons, List.map_cons, ih, drain_cons]

theorem turns_fair (item : UInt16) (wanted : Nat) (slots : List ItemSlot) :
    ∀ t ∈ turns item wanted slots, t.Fair item := by
  induction slots generalizing wanted with
  | nil => exact List.forall_mem_nil _
  | cons s rest ih =>
      rw [turns_cons, List.forall_mem_cons]
      exact ⟨SlotTurn.fair_less (Nat.min_le_right _ _), ih _⟩

/-- A slot pays only where something is wanted. -/
theorem wanted_of_pays {item : UInt16} {wanted : Nat} {slots : List ItemSlot} {t : SlotTurn}
    (ht : t ∈ turns item wanted slots) (hpays : t.Pays) : 0 < wanted := by
  by_contra hzero
  have hzero : wanted = 0 := Nat.eq_zero_of_not_pos hzero
  -- then every slot is left as it was
  have hsame : ∀ t ∈ turns item 0 slots, t.left = t.before := by
    clear ht
    induction slots with
    | nil => exact List.forall_mem_nil _
    | cons s rest ih =>
        rw [turns_cons, List.forall_mem_cons, Nat.zero_min]
        exact ⟨s.less_zero, ih⟩
  rw [hzero] at ht
  unfold SlotTurn.Pays at hpays
  rw [hsame t ht] at hpays
  exact Nat.lt_irrefl _ hpays

theorem turns_inOrder (item : UInt16) (wanted : Nat) (slots : List ItemSlot) :
    (turns item wanted slots).Pairwise fun t u => u.Pays → t.left.copies item = 0 := by
  induction slots generalizing wanted with
  | nil => exact .nil
  | cons s rest ih =>
      rw [turns_cons]
      refine List.pairwise_cons.2 ⟨?_, ih _⟩
      intro u hu hpays
      -- something is wanted behind the first slot, so the first has given all it had
      have hwanted := wanted_of_pays hu hpays
      have hleft := ItemSlot.copies_less (Nat.min_le_right wanted (s.copies item))
      dsimp only
      omega

/-- **A removal has an account.** -/
theorem take_account (item : UInt16) (wanted : Nat) (slots : List ItemSlot) :
    Account item slots (take item wanted slots).slots (turns item wanted slots) where
  before_eq := turns_before item wanted slots
  after_eq := by
    rw [turns_left]
    rfl
  fair := turns_fair item wanted slots
  inOrder := turns_inOrder item wanted slots

/-- Fair turns in order are those of a removal of as many copies as they cost. -/
theorem eq_turns {item : UInt16} {ts : List SlotTurn} (hfair : ∀ t ∈ ts, t.Fair item)
    (horder : ts.Pairwise fun t u => u.Pays → t.left.copies item = 0) :
    ItemSlot.count item (ts.map SlotTurn.left) ≤ ItemSlot.count item (ts.map SlotTurn.before)
      ∧ ts = turns item (ItemSlot.count item (ts.map SlotTurn.before)
          - ItemSlot.count item (ts.map SlotTurn.left)) (ts.map SlotTurn.before) := by
  induction ts with
  | nil => exact ⟨Nat.le_refl _, rfl⟩
  | cons t rest ih =>
      rw [List.forall_mem_cons] at hfair
      rw [List.pairwise_cons] at horder
      obtain ⟨hle, hrest⟩ := ih hfair.2 horder.2
      have hcopies := hfair.1.copies_le
      -- if anything is paid behind the first slot, nothing is left in it
      have hspent : ItemSlot.count item (rest.map SlotTurn.left)
            < ItemSlot.count item (rest.map SlotTurn.before) → t.left.copies item = 0 := by
        intro hlt
        by_contra hleft
        have hsame : rest.map SlotTurn.left = rest.map SlotTurn.before := by
          refine List.map_congr_left fun u hu => ?_
          exact (hfair.2 u hu).eq_of_not_pays fun hpays => hleft (horder.1 u hu hpays)
        rw [hsame] at hlt
        exact Nat.lt_irrefl _ hlt
      rw [List.map_cons, List.map_cons, ItemSlot.count_cons, ItemSlot.count_cons, turns_cons]
      refine ⟨by omega, ?_⟩
      generalize ItemSlot.count item (rest.map SlotTurn.left) = left at *
      generalize ItemSlot.count item (rest.map SlotTurn.before) = before at *
      have hfirst : min (t.before.copies item + before - (t.left.copies item + left))
          (t.before.copies item) = t.before.copies item - t.left.copies item := by
        omega
      have hothers : t.before.copies item + before - (t.left.copies item + left)
          - (t.before.copies item - t.left.copies item) = before - left := by
        omega
      rw [hfirst, hothers, ← hrest, ← hfair.1.left_eq]

/-- **There is just one account of two lists.** -/
theorem Account.unique {item : UInt16} {before after : List ItemSlot} {ts ts' : List SlotTurn}
    (h : Account item before after ts) (h' : Account item before after ts') : ts = ts' := by
  have cost {us : List SlotTurn} (hus : Account item before after us) :
      us = turns item (ItemSlot.count item before - ItemSlot.count item after) before := by
    have heq := (eq_turns hus.fair hus.inOrder).2
    rw [hus.before_eq, ← ItemSlot.count_filter_isFilled item (us.map SlotTurn.left),
      hus.after_eq] at heq
    exact heq
  rw [cost h, cost h']

/-! ## §5. Curses. -/

/-- **A removal knows whether a cursed slot paid.** -/
theorem curseLifted_take (item : UInt16) (wanted : Nat) (slots : List ItemSlot) :
    (take item wanted slots).curseLifted = true
      ↔ ∃ t ∈ turns item wanted slots, t.before.cursed = true ∧ t.Pays := by
  show (drain item wanted slots).curseLifted = true ↔ _
  induction slots generalizing wanted with
  | nil => simp [drain, turns]
  | cons s rest ih =>
      have hpays : SlotTurn.Pays ⟨s, s.less (min wanted (s.copies item))⟩
          ↔ 0 < min wanted (s.copies item) := by
        have hcopies := s.copies_le item
        unfold SlotTurn.Pays
        dsimp only
        rw [ItemSlot.amount_less (by omega)]
        omega
      rw [drain_cons, turns_cons]
      simp only [List.mem_cons, exists_eq_or_imp, hpays, ← ih, Bool.or_eq_true, Bool.and_eq_true,
        decide_eq_true_eq]

/-- A slot that pays and is not emptied pays the last copy that is wanted. -/
theorem wanted_lt_of_left {item : UInt16} {wanted : Nat} {slots : List ItemSlot} {t : SlotTurn}
    (ht : t ∈ turns item wanted slots) (hpays : t.Pays) (hleft : 0 < t.left.amount.toNat) :
    wanted < ItemSlot.count item slots := by
  induction slots generalizing wanted with
  | nil => cases ht
  | cons s rest ih =>
      rw [turns_cons, List.mem_cons] at ht
      rw [ItemSlot.count_cons]
      rcases ht with rfl | ht
      · have hcopies := s.copies_le item
        unfold SlotTurn.Pays at hpays
        dsimp only at hpays hleft
        rw [ItemSlot.amount_less (by omega)] at hpays hleft
        -- it has paid, so that it is a slot of the item
        have hall : s.copies item = s.amount.toNat := by
          unfold ItemSlot.copies at hpays ⊢
          split at hpays
          · next hitem => exact if_pos hitem
          · omega
        omega
      · have hrest := ih ht
        omega

/-- A slot that is relieved of its curse has paid. -/
theorem pays_of_relieved {item : UInt16} {t : SlotTurn} (hfair : t.Fair item)
    (h : t.Relieved) : t.Pays := by
  by_contra hpays
  rw [SlotTurn.Relieved, hfair.eq_of_not_pays hpays, h.1] at h
  exact Bool.noConfusion h.2.1

end Pack

end TileEvents
