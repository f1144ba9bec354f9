/-
  TileEvents.Proofs.Walk.Flags
  ────────────────────────────
  **FLAGS AND WHAT THEY ARE KEPT IN.**

  A savegame keeps its flags in many shapes: sets of those that are on, sets of
  those that are off, the bits of a word, and the bits of a member.  Two facts
  are all that the shapes have to give.  A flag that was written reads so, and
  no other has changed; and there is nothing to a savegame but its flags and a
  rest that no flag belongs to.  The laws of writing follow from these two:

      to write what is read changes nothing;
      of two values written to one flag the second counts;
      two flags are written in either order.

    • `Savegame.flag_setFlag`   — what is read after a flag was written;
    • `Savegame.eq_of_flags`    — nothing but flags and the rest;
    • `setFlag_flag`, `setFlag_setFlag`, `setFlag_comm` — the laws.
-/
import TileEvents.Proofs.Walk.Frame

namespace TileEvents

/-! ## §1. Bits of a word. -/

namespace Bits

variable {w : Nat}

/-- A mask of one bit meets a word where the word has that bit. -/
theorem and_twoPow_bne_zero (m : BitVec w) {i : Nat} (hi : i < w) :
    (m &&& BitVec.twoPow w i != 0#w) = m.getLsbD i := by
  have hpow : BitVec.twoPow w i ≠ 0#w := by
    intro hzero
    have hbit := congrArg (BitVec.getLsbD · i) hzero
    simp [hi] at hbit
  rw [BitVec.and_twoPow]
  cases hm : m.getLsbD i <;> simp [hpow]

/-- A word with one bit switched on or off. -/
def assign (m : BitVec w) (i : Nat) (on : Bool) : BitVec w :=
  if on then m ||| BitVec.twoPow w i else m &&& ~~~ BitVec.twoPow w i

/-- To switch one bit leaves the others. -/
theorem getLsbD_assign (m : BitVec w) {i : Nat} (hi : i < w) (on : Bool) (j : Nat) :
    (assign m i on).getLsbD j = if j = i then on else m.getLsbD j := by
  by_cases hj : j = i
  · subst hj
    cases on <;> simp [assign, hi]
  · have hne : i ≠ j := fun h => hj h.symm
    cases on with
    | true => simp [assign, hj, hne]
    | false =>
        -- the complement of a mask has no bits beyond the width, and neither has the word
        by_cases hlt : j < w
        · simp [assign, hj, hlt]
        · simp [assign, hj, BitVec.getLsbD_of_ge m j (by omega)]

end Bits

namespace Savegame

/-- The mask of a game option. -/
theorem toBitVec_optionMask {o : UInt16} (ho : o < 32) :
    ((1 : UInt32) <<< o.toUInt32).toBitVec = BitVec.twoPow 32 o.toNat := by
  have hlt : o.toNat < 32 := ho
  rw [UInt32.toBitVec_shiftLeft, BitVec.twoPow_eq]
  show 1#32 <<< (o.toUInt32.toBitVec % 32) = _
  rw [BitVec.shiftLeft_eq']
  congr 1
  show (o.toUInt32.toBitVec % 32#32).toNat = o.toNat
  rw [BitVec.toNat_umod]
  show o.toUInt32.toNat % 32 = o.toNat
  rw [UInt16.toNat_toUInt32]
  omega

/-- A game option is a bit. -/
theorem gameOption_eq (s : Savegame) {o : UInt16} (ho : o < 32) :
    s.gameOption o = s.gameOptions.toBitVec.getLsbD o.toNat := by
  have hlt : o.toNat < 32 := ho
  rw [← Bits.and_twoPow_bne_zero _ hlt, ← toBitVec_optionMask ho, gameOption, decide_eq_true ho,
    Bool.true_and, Bool.eq_iff_iff, bne_iff_ne, bne_iff_ne, ne_eq, ne_eq, ← UInt32.toBitVec_inj]
  rfl

/-- To set a game option is to switch its bit. -/
theorem toBitVec_setGameOption (s : Savegame) {o : UInt16} (ho : o < 32) (on : Bool) :
    (s.setGameOption o on).gameOptions.toBitVec
      = Bits.assign s.gameOptions.toBitVec o.toNat on := by
  rw [setGameOption, if_pos ho, Bits.assign, ← toBitVec_optionMask ho]
  cases on <;> rfl

end Savegame

namespace Member

/-- The mask of an ailment. -/
theorem toBitVec_ailmentBit (a : Ailment) : a.bit.toBitVec = BitVec.twoPow 16 a.index := by
  cases a <;> rfl

theorem ailment_index_lt (a : Ailment) : a.index < 16 := by
  cases a <;> decide

/-- An ailment is a bit. -/
theorem hasAilment_eq (m : Member) (a : Ailment) :
    m.hasAilment a = m.ailments.toBitVec.getLsbD a.index := by
  rw [← Bits.and_twoPow_bne_zero _ (ailment_index_lt a), ← toBitVec_ailmentBit, hasAilment,
    Bool.eq_iff_iff, bne_iff_ne, bne_iff_ne, ne_eq, ne_eq, ← UInt16.toBitVec_inj]
  rfl

/-- To set an ailment is to switch its bit. -/
theorem toBitVec_setAilment (m : Member) (a : Ailment) (on : Bool) :
    (m.setAilment a on).ailments.toBitVec = Bits.assign m.ailments.toBitVec a.index on := by
  rw [setAilment, Bits.assign, ← toBitVec_ailmentBit]
  cases on <;> rfl

/-- Ailments with one bit are the same. -/
theorem ailment_index_inj {a b : Ailment} (h : a.index = b.index) : a = b := by
  have hcode := congrArg (fun i => Ailment.ofCode? (UInt8.ofNat i)) h
  simpa using hcode

/-- An ailment that was set reads so, and no other has changed. -/
theorem hasAilment_setAilment (m : Member) (a b : Ailment) (on : Bool) :
    (m.setAilment a on).hasAilment b = if b = a then on else m.hasAilment b := by
  rw [hasAilment_eq, hasAilment_eq, toBitVec_setAilment, Bits.getLsbD_assign _ (ailment_index_lt a)]
  by_cases hb : b = a
  · rw [if_pos hb, if_pos (congrArg Ailment.index hb)]
  · rw [if_neg hb, if_neg fun h => hb (ailment_index_inj h)]

/-- The bits of a mask that belong to no ailment. -/
def withoutAilments (mask : UInt16) : UInt16 :=
  Ailment.all.foldl (fun mask a => mask &&& ~~~a.bit) mask

/-- A member cured of every ailment. -/
def cured (m : Member) : Member := { m with ailments := withoutAilments m.ailments }

/-- A cure switches the bits of these ailments off. -/
theorem getLsbD_foldl_cure (as : List Ailment) (mask : UInt16) (j : Nat) :
    (as.foldl (fun mask a => mask &&& ~~~a.bit) mask).toBitVec.getLsbD j
      = (mask.toBitVec.getLsbD j && !as.any fun a => decide (j = a.index)) := by
  induction as generalizing mask with
  | nil => simp
  | cons a as ih =>
      have hbit : (mask &&& ~~~a.bit).toBitVec = Bits.assign mask.toBitVec a.index false := by
        rw [Bits.assign, ← toBitVec_ailmentBit]
        rfl
      rw [List.foldl_cons, ih, hbit, Bits.getLsbD_assign _ (ailment_index_lt a), List.any_cons]
      by_cases hj : j = a.index <;> simp [hj]

/-- After a cure no bit of an ailment is on, and all others are as they were. -/
theorem getLsbD_withoutAilments (mask : UInt16) (j : Nat)
    [Decidable (∃ a : Ailment, j = a.index)] :
    (withoutAilments mask).toBitVec.getLsbD j
      = if ∃ a : Ailment, j = a.index then false else mask.toBitVec.getLsbD j := by
  have hany : (Ailment.all.any fun a => decide (j = a.index))
      = decide (∃ a : Ailment, j = a.index) := by
    rw [Bool.eq_iff_iff, List.any_eq_true, decide_eq_true_eq]
    constructor
    · rintro ⟨a, -, ha⟩
      exact ⟨a, of_decide_eq_true ha⟩
    · rintro ⟨a, ha⟩
      exact ⟨a, by cases a <;> decide, decide_eq_true ha⟩
  rw [withoutAilments, getLsbD_foldl_cure, hany]
  split
  · next h => rw [decide_eq_true h, Bool.not_true, Bool.and_false]
  · next h => rw [decide_eq_false h, Bool.not_false, Bool.and_true]

/-- An ailment does not matter to a member who is cured. -/
theorem cured_setAilment (m : Member) (a : Ailment) (on : Bool) :
    (m.setAilment a on).cured = m.cured := by
  classical
  have hmask : withoutAilments (m.setAilment a on).ailments = withoutAilments m.ailments := by
    refine UInt16.toBitVec_inj.1 (BitVec.eq_of_getLsbD_eq fun j _ => ?_)
    rw [getLsbD_withoutAilments, getLsbD_withoutAilments, toBitVec_setAilment,
      Bits.getLsbD_assign _ (ailment_index_lt a)]
    by_cases hj : j = a.index
    · rw [if_pos ⟨a, hj⟩, if_pos ⟨a, hj⟩]
    · rw [if_neg hj]
  rw [cured, hmask]
  rfl

/-- **There is nothing to a member but the ailments and what a cure leaves.** -/
theorem eq_of_cured {m m' : Member} (hcured : m.cured = m'.cured)
    (hailments : ∀ a, m.hasAilment a = m'.hasAilment a) : m = m' := by
  classical
  have hmask : m.ailments = m'.ailments := by
    refine UInt16.toBitVec_inj.1 (BitVec.eq_of_getLsbD_eq fun j _ => ?_)
    by_cases hj : ∃ a : Ailment, j = a.index
    · obtain ⟨a, rfl⟩ := hj
      rw [← hasAilment_eq, ← hasAilment_eq, hailments]
    · have hleft := congrArg (fun m => m.ailments.toBitVec.getLsbD j) hcured
      simpa only [cured, getLsbD_withoutAilments, if_neg hj] using hleft
  calc m = { m.cured with ailments := m.ailments } := rfl
    _ = { m'.cured with ailments := m'.ailments } := by rw [hcured, hmask]
    _ = m' := rfl

end Member

/-! ## §2. Flags. -/

/-- **A flag of a savegame.** -/
inductive Flag where
  | globalVariable (index : UInt16)
  | eventBit (address : BitAddress)
  | characterBit (address : BitAddress)
  | locked (lock : Lock)
  | gameOption (option : { option : UInt16 // option < 32 })
  /-- The acting member has this ailment. -/
  | suffers (ailment : Ailment)
  deriving DecidableEq

namespace Savegame

/-- Whether a flag is on. -/
def flag (s : Savegame) : Flag → Bool
  | .globalVariable index => s.globalVariable index
  | .eventBit address => s.eventBit address
  | .characterBit address => s.characterBit address
  | .locked lock => s.isLocked lock
  | .gameOption option => s.gameOption option
  | .suffers ailment => s.actor?.any (·.hasAilment ailment)

/-- The savegame with a flag switched on or off. -/
def setFlag (s : Savegame) (f : Flag) (on : Bool) : Savegame :=
  match f with
  | .globalVariable index => s.setGlobalVariable index on
  | .eventBit address => s.setEventBit address on
  | .characterBit address => s.setCharacterBit address on
  | .locked lock => s.setLocked lock on
  | .gameOption option => s.setGameOption option on
  | .suffers ailment => s.reviseMember s.activeMember.toNat (·.setAilment ailment on)

/-- What is left of a savegame whose flags do not count. -/
def unflagged (s : Savegame) : Savegame :=
  { s with
    globalVariables := .empty, eventBits := .empty, characterBits := .empty
    unlockedDoors := .empty, unlockedChests := .empty, gameOptions := 0
    party := s.party.modify s.activeMember.toNat Member.cured }

/-! ## §3. What flags are made of. -/

theorem gameOption_setGameOption (s : Savegame) {o o' : UInt16} (ho : o < 32) (ho' : o' < 32)
    (on : Bool) :
    (s.setGameOption o on).gameOption o' = if o' = o then on else s.gameOption o' := by
  have hlt : o.toNat < 32 := ho
  rw [gameOption_eq _ ho', gameOption_eq _ ho', toBitVec_setGameOption s ho,
    Bits.getLsbD_assign _ hlt]
  simp only [UInt16.toNat_inj]

/-- The acting member after the revision of the acting member. -/
theorem actor?_reviseActor (s : Savegame) (f : Member → Member) :
    (s.reviseMember s.activeMember.toNat f).actor? = s.actor?.map f := by
  show (s.party.modify s.activeMember.toNat f)[s.activeMember.toNat]? = _
  rw [List.getElem?_modify]
  simp [actor?]

/-- To set a game option touches nothing else. -/
theorem setGameOption_eq (s : Savegame) (o : UInt16) (on : Bool) :
    s.setGameOption o on = { s with gameOptions := (s.setGameOption o on).gameOptions } := by
  unfold setGameOption
  split <;> rfl

/-- No flag moves the acting member. -/
theorem isSome_actor?_setFlag (s : Savegame) (f : Flag) (on : Bool) :
    (s.setFlag f on).actor?.isSome = s.actor?.isSome := by
  cases f with
  | suffers a =>
      show (s.reviseMember s.activeMember.toNat _).actor?.isSome = _
      rw [actor?_reviseActor, Option.isSome_map]
  | gameOption o =>
      show (s.setGameOption o on).actor?.isSome = _
      rw [setGameOption_eq]
      rfl
  | locked lock => cases lock <;> rfl
  | _ => rfl

/-- **A flag reads as it was written, and no other flag has changed.** -/
theorem flag_setFlag {s : Savegame} (hactor : s.actor?.isSome = true) (f g : Flag) (on : Bool) :
    (s.setFlag f on).flag g = if g = f then on else s.flag g := by
  cases f with
  | globalVariable i =>
      cases g with
      | globalVariable j => simp [flag, setFlag]
      | _ => rfl
  | eventBit b =>
      cases g with
      | eventBit b' => simp [flag, setFlag]
      | _ => rfl
  | characterBit b =>
      cases g with
      | characterBit b' => simp [flag, setFlag]
      | _ => rfl
  | locked lock =>
      cases g with
      | locked lock' => simp [flag, setFlag]
      | _ => cases lock <;> rfl
  | gameOption o =>
      cases g with
      | gameOption o' => simp [flag, setFlag, gameOption_setGameOption s o.2 o'.2, Subtype.ext_iff]
      | _ =>
          rw [setFlag, setGameOption_eq]
          rfl
  | suffers a =>
      cases g with
      | suffers b =>
          obtain ⟨member, hmember⟩ := Option.isSome_iff_exists.1 hactor
          show ((s.reviseMember s.activeMember.toNat _).actor?.any (·.hasAilment b)) = _
          rw [actor?_reviseActor, flag, hmember]
          simp [Member.hasAilment_setAilment]
      | _ => rfl

/-- No flag belongs to what is left without them. -/
theorem unflagged_setFlag (s : Savegame) (f : Flag) (on : Bool) :
    (s.setFlag f on).unflagged = s.unflagged := by
  cases f with
  | suffers a =>
      have hparty : (s.party.modify s.activeMember.toNat (·.setAilment a on)).modify
          s.activeMember.toNat Member.cured = s.party.modify s.activeMember.toNat Member.cured := by
        refine List.ext_getElem? fun i => ?_
        simp only [List.getElem?_modify]
        by_cases hi : s.activeMember.toNat = i
        · simp only [hi, if_true]
          cases s.party[i]? with
          | none => rfl
          | some m => exact congrArg some (m.cured_setAilment a on)
        · simp [hi]
      exact congrArg (fun party => ({ s.unflagged with party := party } : Savegame)) hparty
  | gameOption o =>
      rw [setFlag, setGameOption_eq]
      rfl
  | locked lock => cases lock <;> rfl
  | _ => rfl

/-- There is nothing to a set but what it holds. -/
theorem keys_ext {α : Type} [Ranked α] {keys keys' : KeySet α}
    (h : ∀ a, keys.contains a = keys'.contains a) : keys = keys' :=
  KeySet.eq_of_mem_iff fun a => by rw [← KeySet.contains_iff, ← KeySet.contains_iff, h]

/-- There is nothing to the options but their bits. -/
theorem options_ext {s t : Savegame}
    (h : ∀ o : { o : UInt16 // o < 32 }, s.gameOption o = t.gameOption o) :
    s.gameOptions = t.gameOptions := by
  refine UInt32.toBitVec_inj.1 (BitVec.eq_of_getLsbD_eq fun j hj => ?_)
  have hnat : (UInt16.ofNat j).toNat = j := by
    rw [UInt16.toNat_ofNat']
    omega
  have hlt : UInt16.ofNat j < 32 := by
    show (UInt16.ofNat j).toNat < 32
    omega
  have hoption := h ⟨.ofNat j, hlt⟩
  rwa [gameOption_eq s hlt, gameOption_eq t hlt, hnat] at hoption

/-- There is nothing to a party but the ailments of one member and what a cure of that member
leaves. -/
theorem party_ext {party party' : List Member} (position : Nat)
    (hcured : party.modify position Member.cured = party'.modify position Member.cured)
    (hailments : ∀ a,
      party[position]?.any (·.hasAilment a) = party'[position]?.any (·.hasAilment a)) :
    party = party' := by
  refine List.ext_getElem? fun i => ?_
  have hi := congrArg (·[i]?) hcured
  simp only [List.getElem?_modify] at hi
  by_cases hposition : position = i
  · subst hposition
    cases hm : party[position]? with
    | none =>
        cases hm' : party'[position]? with
        | none => rfl
        | some m' => simp [hm, hm'] at hi
    | some m =>
        cases hm' : party'[position]? with
        | none => simp [hm, hm'] at hi
        | some m' =>
            simp only [hm, hm', if_true, Option.map_eq_map, Option.map_some,
              Option.some.injEq] at hi
            simp only [hm, hm', Option.any_some] at hailments
            rw [Member.eq_of_cured hi hailments]
  · simpa [hposition] using hi

/-- **There is nothing to a savegame but its flags and what is left without them.** -/
theorem eq_of_flags {s t : Savegame} (hflags : ∀ f, s.flag f = t.flag f)
    (hrest : s.unflagged = t.unflagged) : s = t := by
  have hglobals : s.globalVariables = t.globalVariables :=
    keys_ext fun i => hflags (.globalVariable i)
  have hevents : s.eventBits = t.eventBits := keys_ext fun b => hflags (.eventBit b)
  have hcharacters : s.characterBits = t.characterBits := keys_ext fun b => hflags (.characterBit b)
  have hdoors : s.unlockedDoors = t.unlockedDoors :=
    keys_ext fun i => Bool.not_inj (hflags (.locked (.door i)))
  have hchests : s.unlockedChests = t.unlockedChests :=
    keys_ext fun i => Bool.not_inj (hflags (.locked (.chest i)))
  have hoptions : s.gameOptions = t.gameOptions := options_ext fun o => hflags (.gameOption o)
  have hparty : s.party = t.party := by
    have hactive : s.unflagged.activeMember = t.unflagged.activeMember := by rw [hrest]
    have hcured : s.unflagged.party = t.unflagged.party := by rw [hrest]
    have hsuffers (a : Ailment) := hflags (.suffers a)
    change s.activeMember = t.activeMember at hactive
    change s.party.modify s.activeMember.toNat Member.cured = t.party.modify _ _ at hcured
    rw [← hactive] at hcured
    refine party_ext s.activeMember.toNat hcured fun a => ?_
    have ha := hsuffers a
    rw [flag, flag, actor?, actor?, ← hactive] at ha
    exact ha
  calc s = { s.unflagged with
        globalVariables := s.globalVariables, eventBits := s.eventBits
        characterBits := s.characterBits, unlockedDoors := s.unlockedDoors
        unlockedChests := s.unlockedChests, gameOptions := s.gameOptions, party := s.party } := rfl
    _ = { t.unflagged with
        globalVariables := t.globalVariables, eventBits := t.eventBits
        characterBits := t.characterBits, unlockedDoors := t.unlockedDoors
        unlockedChests := t.unlockedChests, gameOptions := t.gameOptions, party := t.party } := by
      rw [hrest, hglobals, hevents, hcharacters, hdoors, hchests, hoptions, hparty]
    _ = t := rfl

/-! ## §4. The algebra. -/

section Algebra

variable {s : Savegame} (hactor : s.actor?.isSome = true)

include hactor

/-- To write what is read changes nothing. -/
theorem setFlag_flag (f : Flag) : s.setFlag f (s.flag f) = s := by
  refine eq_of_flags (fun g => ?_) (unflagged_setFlag s f _)
  rw [flag_setFlag hactor]
  split
  · next h => rw [h]
  · rfl

/-- Of two values written to one flag the second counts. -/
theorem setFlag_setFlag (f : Flag) (on on' : Bool) :
    (s.setFlag f on).setFlag f on' = s.setFlag f on' := by
  have hactor' : (s.setFlag f on).actor?.isSome = true := by rw [isSome_actor?_setFlag, hactor]
  refine eq_of_flags (fun g => ?_) ?_
  · rw [flag_setFlag hactor', flag_setFlag hactor, flag_setFlag hactor]
    split <;> rfl
  · rw [unflagged_setFlag, unflagged_setFlag, unflagged_setFlag]

/-- **Two flags are written in either order.** -/
theorem setFlag_comm {f g : Flag} (h : f ≠ g) (on on' : Bool) :
    (s.setFlag f on).setFlag g on' = (s.setFlag g on').setFlag f on := by
  have hactor' (f : Flag) (on : Bool) : (s.setFlag f on).actor?.isSome = true := by
    rw [isSome_actor?_setFlag, hactor]
  refine eq_of_flags (fun k => ?_) ?_
  · rw [flag_setFlag (hactor' f on), flag_setFlag (hactor' g on'), flag_setFlag hactor,
      flag_setFlag hactor]
    by_cases hkg : k = g
    · have hkf : k ≠ f := fun hkf => h (hkf.symm.trans hkg)
      rw [if_pos hkg, if_neg hkf, if_pos hkg]
    · rw [if_neg hkg, if_neg hkg]
  · rw [unflagged_setFlag, unflagged_setFlag, unflagged_setFlag, unflagged_setFlag]

end Algebra

end Savegame

end TileEvents
