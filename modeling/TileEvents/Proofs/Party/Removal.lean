/-
  TileEvents.Proofs.Party.Removal
  ───────────────────────────────
  **WHICH COPIES A REMOVAL TAKES FROM THE PARTY.**

  A removal is one sweep over all lists of slots that the party has: the
  inventories in party order, and then the equipment in party order.  What is
  still wanted at a list is what was wanted at first less the copies that stand
  in front of it, and from there on every list is a matter of its own.

    • `takeEach`, `takeEach_get`  — the sweep, and what it makes of each list;
    • `takeEach_inOrder`          — a list pays only behind lists that are out;
    • `takeFromParty_lists`       — a removal from the party is one sweep;
    • `takeFromParty_exact`       — which copies are taken, and nothing else.
-/
import TileEvents.Proofs.Party.Slots
import TileEvents.Proofs.Party.Turns

namespace TileEvents

namespace Pack

/-! ## §1. One sweep. -/

/-- None of the slots is one of the item. -/
def Without (item : UInt16) (slots : List ItemSlot) : Prop := ∀ s ∈ slots, s.item ≠ item

/-- The copies of `item` in several lists of slots. -/
def stock (item : UInt16) (lists : List (List ItemSlot)) : Nat :=
  Word.total (lists.map (ItemSlot.count item))

/-- Take up to `wanted` copies from several lists, one after the other. -/
def takeEach (item : UInt16) : Nat → List (List ItemSlot) → List Removal
  | _, [] => []
  | wanted, slots :: rest =>
    take item wanted slots :: takeEach item (take item wanted slots).missing rest

section Sweep

variable (item : UInt16)

theorem stock_cons (slots : List ItemSlot) (lists : List (List ItemSlot)) :
    stock item (slots :: lists) = ItemSlot.count item slots + stock item lists :=
  rfl

theorem stock_append (lists lists' : List (List ItemSlot)) :
    stock item (lists ++ lists') = stock item lists + stock item lists' := by
  unfold stock
  rw [List.map_append, Word.total_append]

theorem stock_take_succ {lists : List (List ItemSlot)} {i : Nat} {slots : List ItemSlot}
    (h : lists[i]? = some slots) :
    stock item (lists.take (i + 1)) = stock item (lists.take i) + ItemSlot.count item slots := by
  rw [List.take_add_one, h, stock_append]
  rfl

theorem stock_take_mono (lists : List (List ItemSlot)) {i j : Nat} (h : i ≤ j) :
    stock item (lists.take i) ≤ stock item (lists.take j) := by
  obtain ⟨d, rfl⟩ := Nat.exists_eq_add_of_le h
  rw [List.take_add, stock_append]
  exact Nat.le_add_right _ _

@[simp] theorem length_takeEach (wanted : Nat) (lists : List (List ItemSlot)) :
    (takeEach item wanted lists).length = lists.length := by
  induction lists generalizing wanted with
  | nil => rfl
  | cons slots rest ih => rw [takeEach, List.length_cons, ih, List.length_cons]

/-- **What becomes of a list**: it is taken from as if it were alone, with less wanted by the copies
in front of it. -/
theorem takeEach_get (wanted : Nat) (lists : List (List ItemSlot)) (i : Nat) :
    (takeEach item wanted lists)[i]?
      = (lists[i]?).map (take item (wanted - stock item (lists.take i))) := by
  induction lists generalizing wanted i with
  | nil => rfl
  | cons slots rest ih =>
      cases i with
      | zero => rfl
      | succ i =>
          rw [takeEach, List.getElem?_cons_succ, ih, missing_take, Nat.sub_sub]
          rfl

theorem takeEach_append (wanted : Nat) (lists lists' : List (List ItemSlot)) :
    takeEach item wanted (lists ++ lists')
      = takeEach item wanted lists ++ takeEach item (wanted - stock item lists) lists' := by
  induction lists generalizing wanted with
  | nil => rfl
  | cons slots rest ih =>
      rw [List.cons_append, takeEach, takeEach, ih, List.cons_append, stock_cons, missing_take,
        Nat.sub_sub]

/-- What is left in the lists is what was not wanted. -/
theorem stock_takeEach (wanted : Nat) (lists : List (List ItemSlot)) :
    stock item ((takeEach item wanted lists).map Removal.slots) = stock item lists - wanted := by
  induction lists generalizing wanted with
  | nil => exact (Nat.zero_sub wanted).symm
  | cons slots rest ih =>
      rw [takeEach, List.map_cons, stock_cons, stock_cons, ih, count_take, missing_take]
      omega

variable {item}

/-- A list of which everything is wanted is out afterwards. -/
theorem take_without {wanted : Nat} {slots : List ItemSlot}
    (h : ItemSlot.count item slots ≤ wanted) : Without item (take item wanted slots).slots := by
  refine ItemSlot.item_ne_of_count (take_filled item wanted slots) ?_
  rw [count_take]
  exact Nat.sub_eq_zero_of_le h

/-- **A list pays only behind lists that are out afterwards.** -/
theorem takeEach_inOrder {wanted i j : Nat} {lists : List (List ItemSlot)}
    {front before after : List ItemSlot} (hij : i < j)
    (hfront : ((takeEach item wanted lists).map Removal.slots)[i]? = some front)
    (hbefore : lists[j]? = some before)
    (hafter : ((takeEach item wanted lists).map Removal.slots)[j]? = some after)
    {ts : List SlotTurn} (hts : Account item before after ts) (hpays : ∃ t ∈ ts, t.Pays) :
    Without item front := by
  rw [List.getElem?_map, takeEach_get, Option.map_map] at hfront hafter
  obtain ⟨slots, hslots, rfl⟩ := Option.map_eq_some_iff.1 hfront
  rw [hbefore] at hafter
  obtain rfl := Option.some.inj hafter
  -- something is wanted at the second list, so everything was wanted at the first
  obtain ⟨t, ht, hpays⟩ := hpays
  rw [hts.unique (take_account item _ before)] at ht
  have hwanted := wanted_of_pays ht hpays
  have hstock := stock_take_succ item hslots
  have hmono := stock_take_mono item lists (show i + 1 ≤ j from hij)
  exact take_without (by omega)

end Sweep

/-! ## §2. The lists of the party. -/

/-- The lists of slots of the party in the order in which they are taken from. -/
def lists (party : List Member) : List (List ItemSlot) :=
  party.map (·.inventory) ++ party.map (·.equipment)

/-- The copies of `item` that the party owns. -/
def owned (item : UInt16) (party : List Member) : Nat :=
  Word.total (party.map fun m => ItemSlot.count item m.inventory + ItemSlot.count item m.equipment)

theorem owned_eq_stock (item : UInt16) (party : List Member) :
    owned item party = stock item (lists party) := by
  rw [lists, stock_append]
  induction party with
  | nil => rfl
  | cons m rest ih =>
      rw [List.map_cons, List.map_cons, stock_cons, stock_cons]
      show ItemSlot.count item m.inventory + ItemSlot.count item m.equipment + owned item rest = _
      rw [ih]
      omega

theorem lists_inventory {party : List Member} {i : Nat} {m : Member} (h : party[i]? = some m) :
    (lists party)[i]? = some m.inventory := by
  have hi : i < party.length := (List.getElem?_eq_some_iff.1 h).1
  rw [lists, List.getElem?_append_left (by rw [List.length_map]; exact hi), List.getElem?_map, h]
  rfl

theorem lists_equipment {party : List Member} {i : Nat} {m : Member} (h : party[i]? = some m) :
    (lists party)[party.length + i]? = some m.equipment := by
  rw [lists, List.getElem?_append_right (by rw [List.length_map]; omega), List.length_map,
    Nat.add_sub_cancel_left, List.getElem?_map, h]
  rfl

/-- The inventories stand in front of all the equipment. -/
theorem lists_take_length (party : List Member) :
    (lists party).take party.length = party.map (·.inventory) := by
  rw [lists, List.take_append_of_le_length (by simp), List.take_of_length_le (by simp)]

/-- The member with the inventory that a removal left. -/
def stow (m : Member) (r : Removal) : Member := { m with inventory := r.slots }

/-- The member with the equipment that a removal left. -/
def don (m : Member) (r : Removal) : Member := { m with equipment := r.slots }

section Party

variable (item : UInt16)

/-- The first round is a sweep over the inventories. -/
theorem takeCarried_eq (wanted : Nat) (party : List Member) :
    takeCarried item wanted party
      = (party.zipWith stow (takeEach item wanted (party.map (·.inventory))),
        wanted - stock item (party.map (·.inventory))) := by
  induction party generalizing wanted with
  | nil => rfl
  | cons m rest ih =>
      rw [takeCarried, ih, List.map_cons, takeEach, stock_cons, missing_take, Nat.sub_sub]
      rfl

/-- The second round is a sweep over the equipment. -/
theorem takeWorn_eq (position wanted : Nat) (party : List Member) :
    takeWorn item position wanted party
      = (party.zipWith don (takeEach item wanted (party.map (·.equipment))),
        wanted - stock item (party.map (·.equipment)),
        positionsFrom Removal.curseLifted position
          (takeEach item wanted (party.map (·.equipment)))) := by
  induction party generalizing position wanted with
  | nil => rfl
  | cons m rest ih =>
      rw [takeWorn, ih, List.map_cons, takeEach, stock_cons, missing_take, Nat.sub_sub,
        positionsFrom]
      rfl

/-- What is taken from the inventories. -/
def carriedSweep (wanted : Nat) (party : List Member) : List Removal :=
  takeEach item wanted (party.map (·.inventory))

/-- What is taken from the equipment for what is wanted still. -/
def wornSweep (wanted : Nat) (party : List Member) : List Removal :=
  takeEach item (wanted - stock item (party.map (·.inventory))) (party.map (·.equipment))

/-- A field that is overwritten in every member holds what was written. -/
theorem map_zipWith_written {f : Member → Removal → Member} {g : Member → List ItemSlot}
    (h : ∀ m r, g (f m r) = r.slots) {party : List Member} {rs : List Removal}
    (hlength : rs.length = party.length) :
    (party.zipWith f rs).map g = rs.map Removal.slots := by
  induction party generalizing rs with
  | nil =>
      rw [List.length_eq_zero_iff.1 hlength]
      rfl
  | cons m rest ih =>
      cases rs with
      | nil => cases hlength
      | cons r rs =>
          rw [List.zipWith_cons_cons, List.map_cons, List.map_cons, h, ih (Nat.succ.inj hlength)]

/-- A field that is not holds what it held. -/
theorem map_zipWith_kept {f : Member → Removal → Member} {g : Member → List ItemSlot}
    (h : ∀ m r, g (f m r) = g m) {party : List Member} {rs : List Removal}
    (hlength : rs.length = party.length) : (party.zipWith f rs).map g = party.map g := by
  induction party generalizing rs with
  | nil => rfl
  | cons m rest ih =>
      cases rs with
      | nil => cases hlength
      | cons r rs =>
          rw [List.zipWith_cons_cons, List.map_cons, List.map_cons, h, ih (Nat.succ.inj hlength)]

/-- **A removal from the party, taken apart**: both rounds are sweeps, and each writes one field of
the members. -/
theorem takeFromParty_eq (wanted : Nat) (party : List Member) :
    takeFromParty item wanted party
      = ⟨(party.zipWith stow (carriedSweep item wanted party)).zipWith don
            (wornSweep item wanted party),
          min wanted (owned item party),
          positionsFrom Removal.curseLifted 0 (wornSweep item wanted party)⟩ := by
  have hequipment : (party.zipWith stow (carriedSweep item wanted party)).map (·.equipment)
      = party.map (·.equipment) :=
    map_zipWith_kept (f := stow) (g := (·.equipment)) (fun _ _ => rfl) (by simp [carriedSweep])
  have hremoved : wanted - (wanted - stock item (party.map (·.inventory))
        - stock item (party.map (·.equipment))) = min wanted (owned item party) := by
    rw [owned_eq_stock, lists, stock_append]
    omega
  unfold takeFromParty
  rw [takeCarried_eq]
  dsimp only
  rw [takeWorn_eq, ← carriedSweep, hequipment, hremoved]
  rfl

/-- **A removal from the party is one sweep over its lists.** -/
theorem takeFromParty_lists (wanted : Nat) (party : List Member) :
    lists (takeFromParty item wanted party).party
      = (takeEach item wanted (lists party)).map Removal.slots := by
  have hcarried : (carriedSweep item wanted party).length = party.length := by
    simp [carriedSweep]
  have hworn : (wornSweep item wanted party).length
      = (party.zipWith stow (carriedSweep item wanted party)).length := by
    rw [List.length_zipWith, hcarried, Nat.min_self]
    simp [wornSweep]
  rw [takeFromParty_eq, lists, lists, takeEach_append, List.map_append]
  dsimp only
  -- the second round leaves the inventories as the first has written them
  rw [map_zipWith_kept (f := don) (g := (·.inventory)) (fun _ _ => rfl) hworn,
    map_zipWith_written (f := stow) (g := (·.inventory)) (fun _ _ => rfl) hcarried,
    map_zipWith_written (f := don) (g := (·.equipment)) (fun _ _ => rfl) hworn]
  rfl

theorem length_takeFromParty (wanted : Nat) (party : List Member) :
    (takeFromParty item wanted party).party.length = party.length :=
  (takeFromParty_packed item wanted party).length_eq.symm

end Party

/-! ## §3. The members. -/

/-- What an account says of the slots of other items: those that are not empty stay, in order. -/
theorem Account.others {item : UInt16} {before after : List ItemSlot} {ts : List SlotTurn}
    (h : Account item before after ts) :
    after.filter (·.item != item) = before.filter fun s => s.item != item && s.isFilled := by
  obtain ⟨rfl, rfl, hfair, -⟩ := h
  rw [List.filter_filter]
  induction ts with
  | nil => rfl
  | cons t rest ih =>
      rw [List.forall_mem_cons] at hfair
      rw [List.map_cons, List.map_cons, List.filter_cons, List.filter_cons, ih hfair.2]
      by_cases hitem : t.before.item = item
      · rw [hfair.1.item_eq, hitem, bne_self_eq_false]
        rfl
      · rw [hfair.1.other hitem]

/-- What a removal still wants when it comes to the list at a position. -/
def wantedAt (item : UInt16) (wanted : Nat) (party : List Member) (k : Nat) : Nat :=
  wanted - stock item ((lists party).take k)

/-- **What becomes of a member**: copies are taken from the inventory and from the equipment, and
nothing else happens. -/
theorem takeFromParty_member {item : UInt16} {wanted i : Nat} {party : List Member} {m m' : Member}
    (hm : party[i]? = some m) (hm' : (takeFromParty item wanted party).party[i]? = some m') :
    m' = { m with
      inventory := (take item (wantedAt item wanted party i) m.inventory).slots
      equipment :=
        (take item (wantedAt item wanted party (party.length + i)) m.equipment).slots } := by
  have hinventory := lists_inventory hm'
  have hequipment := lists_equipment hm'
  rw [takeFromParty_lists, List.getElem?_map, takeEach_get] at hinventory hequipment
  rw [lists_inventory hm] at hinventory
  rw [length_takeFromParty, lists_equipment hm] at hequipment
  have hcarried : (take item (wantedAt item wanted party i) m.inventory).slots = m'.inventory :=
    Option.some.inj hinventory
  have hworn : (take item (wantedAt item wanted party (party.length + i)) m.equipment).slots
      = m'.equipment := Option.some.inj hequipment
  -- no other field is written
  obtain ⟨hi, hget⟩ := List.getElem?_eq_some_iff.1 hm
  obtain ⟨hi', hget'⟩ := List.getElem?_eq_some_iff.1 hm'
  obtain ⟨inventory, equipment, hpacked⟩ := (takeFromParty_packed item wanted party).get hi hi'
  rw [List.get_eq_getElem, List.get_eq_getElem, hget, hget'] at hpacked
  rw [hcarried, hworn, hpacked]

/-- An account in which the list loses copies has a slot that pays. -/
theorem Account.exists_pays {item : UInt16} {before after : List ItemSlot} {ts : List SlotTurn}
    (h : Account item before after ts)
    (hless : ItemSlot.count item after < ItemSlot.count item before) : ∃ t ∈ ts, t.Pays := by
  by_contra hnone
  have hsame : ts.map SlotTurn.left = ts.map SlotTurn.before := by
    refine List.map_congr_left fun t ht => ?_
    exact (h.fair t ht).eq_of_not_pays fun hpays => hnone ⟨t, ht, hpays⟩
  rw [← h.after_eq, ItemSlot.count_filter_isFilled, hsame, h.before_eq] at hless
  exact Nat.lt_irrefl _ hless

/-- What is reported as removed, and what is left of the item in the whole party. -/
theorem owned_takeFromParty (item : UInt16) (wanted : Nat) (party : List Member) :
    (takeFromParty item wanted party).removed = min wanted (owned item party)
      ∧ owned item (takeFromParty item wanted party).party + min wanted (owned item party)
          = owned item party := by
  refine ⟨by rw [takeFromParty_eq], ?_⟩
  rw [owned_eq_stock item (takeFromParty item wanted party).party, takeFromParty_lists,
    stock_takeEach, ← owned_eq_stock]
  omega

/-- **A removal takes the right copies and nothing else.**  What it reports is what was wanted, or
all the party owned, and that much the party loses.  There is an account of every list, so that the
slots of other items that are not empty stay in their order, and no slot is empty afterwards.  A
worn slot pays only if afterwards the item is in nobody's inventory, and an inventory (the equipment)
of a member only if it is in no inventory (no equipment) of an earlier one. -/
theorem takeFromParty_exact (item : UInt16) (wanted : Nat) (party : List Member) :
    let r := takeFromParty item wanted party
    r.removed = min wanted (owned item party)
      ∧ owned item r.party + r.removed = owned item party
      ∧ r.party.length = party.length
      ∧ ∀ (i : Nat) (m m' : Member), party[i]? = some m → r.party[i]? = some m' →
          m' = { m with inventory := m'.inventory, equipment := m'.equipment }
          ∧ (∀ s ∈ m'.inventory ++ m'.equipment, 0 < s.amount.toNat)
          ∧ m'.inventory.filter (·.item != item)
              = m.inventory.filter (fun s => s.item != item && s.isFilled)
          ∧ m'.equipment.filter (·.item != item)
              = m.equipment.filter (fun s => s.item != item && s.isFilled)
          ∧ (∃ carried worn, Account item m.inventory m'.inventory carried
              ∧ Account item m.equipment m'.equipment worn
              ∧ ((∃ t ∈ worn, t.Pays) → ∀ h ∈ r.party, Without item h.inventory))
          ∧ (ItemSlot.count item m'.inventory < ItemSlot.count item m.inventory →
              ∀ (j : Nat) (h : Member), j < i → r.party[j]? = some h → Without item h.inventory)
          ∧ (ItemSlot.count item m'.equipment < ItemSlot.count item m.equipment →
              ∀ (j : Nat) (h : Member), j < i → r.party[j]? = some h → Without item h.equipment) := by
  intro r
  have howned := owned_takeFromParty item wanted party
  have hlength : r.party.length = party.length := length_takeFromParty item wanted party
  refine ⟨howned.1, howned.1 ▸ howned.2, hlength, ?_⟩
  intro i m m' hm hm'
  have heq := takeFromParty_member hm hm'
  have hinventory := congrArg Member.inventory heq
  have hequipment := congrArg Member.equipment heq
  dsimp only at hinventory hequipment
  have hcarried := take_account item (wantedAt item wanted party i) m.inventory
  have hworn := take_account item (wantedAt item wanted party (party.length + i)) m.equipment
  rw [← hinventory] at hcarried
  rw [← hequipment] at hworn
  -- every list of the party is one of the sweep
  have hlists := takeFromParty_lists item wanted party
  have hbefore := lists_inventory hm
  have hbefore' := lists_equipment hm
  have hafter := lists_inventory hm'
  have hafter' := lists_equipment hm'
  rw [hlength] at hafter'
  rw [hlists] at hafter hafter'
  refine ⟨by rw [heq], ?_, hcarried.others, hworn.others, ⟨_, _, hcarried, hworn, ?_⟩, ?_, ?_⟩
  · rw [hinventory, hequipment, List.forall_mem_append]
    exact ⟨take_filled item _ _, take_filled item _ _⟩
  · intro hpays h hh
    obtain ⟨j, hj⟩ := List.getElem?_of_mem hh
    have hjlt : j < r.party.length := (List.getElem?_eq_some_iff.1 hj).1
    have hfront := lists_inventory hj
    rw [hlists] at hfront
    exact takeEach_inOrder (by omega) hfront hbefore' hafter' hworn hpays
  · intro hless j h hji hj
    have hfront := lists_inventory hj
    rw [hlists] at hfront
    exact takeEach_inOrder hji hfront hbefore hafter hcarried (hcarried.exists_pays hless)
  · intro hless j h hji hj
    have hfront := lists_equipment hj
    rw [hlength, hlists] at hfront
    exact takeEach_inOrder (Nat.add_lt_add_left hji _) hfront hbefore' hafter' hworn
      (hworn.exists_pays hless)

/-- A copy that is carried goes before one that is worn, whoever has it. -/
example :
    let party : List Member := [{ Member.blank with equipment := [⟨9, 1, true⟩] },
      { Member.blank with inventory := [⟨9, 1, false⟩, ⟨4, 2, true⟩] }]
    (takeFromParty 9 1 party).party.map (fun m => (m.inventory, m.equipment))
      = [([], [⟨9, 1, true⟩]), ([⟨4, 2, true⟩], [])] := by
  decide

end Pack

end TileEvents
