/-
  TileEvents.Proofs.Party.Stats
  ─────────────────────────────
  **STATS STAY IN BOUNDS.**

  Hit points, spell points, attributes and skills are stats, each with a
  current and a largest value.  Nothing changes a largest value.  The current
  one changes in two ways: an award cuts what comes of it down to the largest
  value, whatever its operation, and damage takes no more than there is.  So a
  stat that is in bounds stays there, and then what gives cannot take and what
  takes cannot give: the cut only bites where the largest value is exceeded.

    • `Stat.Turns`                — what becomes of a stat that is in bounds;
    • `Award.reviseStat_turns`    — an award to one stat, for all operations;
    • `Payload.Turns.stats`       — the stats of a member, by payload;
    • `Playthrough.stats_turn`    — the stats of the party, over a run.
-/
import TileEvents.Proofs.Session.Visits

namespace TileEvents

/-! ## §1. One stat. -/

/-- The current value is no larger than the largest. -/
def Stat.InBounds (s : Stat) : Prop := s.current ≤ s.max

instance (s : Stat) : Decidable s.InBounds := inferInstanceAs (Decidable (_ ≤ _))

namespace AwardOperation

/-- The operation is meant to add to a value. -/
def gives : AwardOperation → Bool
  | increase | increasePercentage | fill => true
  | decrease | decreasePercentage | remove | add => false

/-- The operation is meant to take from a value. -/
def takes : AwardOperation → Bool
  | decrease | decreasePercentage => true
  | increase | increasePercentage | fill | remove | add => false

end AwardOperation

/-- **What becomes of a stat** when a node with this payload runs: it is in bounds afterwards, and an
award moves it no other way than its operation says. -/
structure Stat.Turns (p : Payload) (s s' : Stat) : Prop where
  max_eq : s'.max = s.max
  inBounds : s'.InBounds
  rises : ∀ a, p = .award a → a.operation.gives = true → s.current ≤ s'.current
  falls : ∀ a, p = .award a → a.operation.takes = true → s'.current ≤ s.current

namespace Stat

/-- A stat that is left alone. -/
theorem Turns.same {p : Payload} {s : Stat} (h : s.InBounds) : Turns p s s where
  max_eq := rfl
  inBounds := h
  rises _ _ _ := UInt32.le_refl _
  falls _ _ _ := UInt32.le_refl _

end Stat

namespace Award

/-- An award to a stat cuts the wanted value down to the largest. -/
theorem toNat_reviseStat (operation : AwardOperation) (amount : UInt32) (s : Stat) :
    (reviseStat operation amount s).current.toNat
      = min s.max.toNat
          (match operation with
          | .increase => min (s.current.toNat + amount.toNat) 4294967295
          | .decrease => s.current.toNat - amount.toNat
          | .increasePercentage =>
            min (s.current.toNat + (Word.percentOf s.max amount).toNat) 4294967295
          | .decreasePercentage => s.current.toNat - (Word.percentOf s.max amount).toNat
          | .fill => s.max.toNat
          | .remove | .add => s.current.toNat) := by
  have hcut (wanted : UInt32) : (if wanted ≤ s.max then wanted else s.max).toNat
      = min s.max.toNat wanted.toNat := by
    split
    · next hle => exact (Nat.min_eq_right (UInt32.le_iff_toNat_le.1 hle)).symm
    · next hgt =>
        have hlt := UInt32.lt_iff_toNat_lt.1 (UInt32.not_le.1 hgt)
        exact (Nat.min_eq_left (Nat.le_of_lt hlt)).symm
  unfold reviseStat
  dsimp only
  rw [hcut]
  cases operation <;> simp only [Word.toNat_add32, Word.toNat_sub32]

/-- **An award to one stat**, whatever the operation and the amount. -/
theorem reviseStat_turns (a : Award) (amount : UInt32) {s : Stat} (h : s.InBounds) :
    Stat.Turns (.award a) s (reviseStat a.operation amount s) := by
  have hrevised := toNat_reviseStat a.operation amount s
  have hbound := UInt32.le_iff_toNat_le.1 h
  have hmax := s.max.toNat_lt
  constructor
  · rfl
  · refine UInt32.le_iff_toNat_le.2 ?_
    rw [hrevised]
    exact Nat.min_le_left _ _
  · rintro _ ⟨⟩ hgives
    rw [UInt32.le_iff_toNat_le, hrevised]
    cases hoperation : a.operation with
    | increase | increasePercentage =>
        dsimp only
        omega
    | fill => exact Nat.le_min.2 ⟨hbound, hbound⟩
    | decrease | decreasePercentage | remove | add =>
        rw [hoperation] at hgives
        cases hgives
  · rintro _ ⟨⟩ htakes
    rw [UInt32.le_iff_toNat_le, hrevised]
    cases hoperation : a.operation with
    | decrease | decreasePercentage => exact Nat.le_trans (Nat.min_le_right _ _) (Nat.sub_le _ _)
    | increase | increasePercentage | fill | remove | add =>
        rw [hoperation] at htakes
        cases htakes

end Award

/-! ## §2. Lists. -/

section Lists

variable {α : Type} {R : α → α → Prop}

/-- One entry of a list is revised, or none. -/
theorem forall₂_modify {f : α → α} {l : List α} (i : Nat) (hsame : ∀ a ∈ l, R a a)
    (hf : ∀ a ∈ l, R a (f a)) : List.Forall₂ R l (l.modify i f) := by
  induction l generalizing i with
  | nil => exact (List.modify_nil ..).symm ▸ .nil
  | cons a rest ih =>
      rw [List.forall_mem_cons] at hsame hf
      cases i with
      | zero => exact .cons hf.1 (List.forall₂_same.2 hsame.2)
      | succ i => exact .cons hsame.1 (ih i hsame.2 hf.2)

/-- What holds of everything that something became holds of all that came of a list. -/
theorem forall_mem_of_forall₂ {P : α → Prop} {l l' : List α} (h : List.Forall₂ R l l')
    (hR : ∀ a b, R a b → P b) : ∀ b ∈ l', P b := by
  induction h with
  | nil => exact List.forall_mem_nil _
  | cons hab _ ih => exact List.forall_mem_cons.2 ⟨hR _ _ hab, ih⟩

end Lists

/-! ## §3. The stats of a member. -/

namespace Member

/-- All stats of a member. -/
def stats (m : Member) : List Stat := m.hitPoints :: m.spellPoints :: (m.attributes ++ m.skills)

/-- Damage takes what it takes from the hit points. -/
theorem toNat_takeDamage (m : Member) (damage : UInt32) :
    (m.takeDamage damage).hitPoints.current.toNat + (m.damageTaken damage).toNat
      = m.hitPoints.current.toNat := by
  have hle := m.damageTaken_le damage
  have hleft : (m.takeDamage damage).hitPoints.current
      = m.hitPoints.current - m.damageTaken damage := by
    unfold takeDamage
    dsimp only
    split <;> rfl
  rw [hleft, UInt32.toNat_sub_of_le _ _ hle]
  exact Nat.sub_add_cancel (UInt32.le_iff_toNat_le.1 hle)

/-- Damage changes the hit points alone of all stats, and lowers them. -/
theorem takeDamage_stats (m : Member) (damage : UInt32) :
    ∃ left, (m.takeDamage damage).stats = ⟨left, m.hitPoints.max⟩ :: m.stats.tail
      ∧ left ≤ m.hitPoints.current := by
  refine ⟨(m.takeDamage damage).hitPoints.current, ?_, ?_⟩
  · unfold takeDamage
    dsimp only
    split <;> rfl
  · have hdamage := m.toNat_takeDamage damage
    rw [UInt32.le_iff_toNat_le]
    omega

end Member

/-- **What becomes of the stats of a member** when a node with this payload runs. -/
def Member.StatsTurn (p : Payload) (m m' : Member) : Prop :=
  List.Forall₂ (Stat.Turns p) m.stats m'.stats

namespace Member.StatsTurn

variable {p : Payload} {m m' : Member}

theorem same (h : ∀ s ∈ m.stats, s.InBounds) (hstats : m'.stats = m.stats) : m.StatsTurn p m' := by
  unfold StatsTurn
  rw [hstats]
  exact List.forall₂_same.2 fun s hs => .same (h s hs)

/-- Stats that turn are in bounds afterwards. -/
theorem inBounds (h : m.StatsTurn p m') : ∀ s ∈ m'.stats, s.InBounds :=
  forall_mem_of_forall₂ h fun _ _ hturn => hturn.inBounds

end Member.StatsTurn

/-- **An award to a member.** -/
theorem Award.revise_stats (a : Award) (amount : UInt32) {m : Member}
    (h : ∀ s ∈ m.stats, s.InBounds) : m.StatsTurn (.award a) (a.revise amount m) := by
  have same {l : List Stat} (hl : ∀ s ∈ l, s.InBounds) :
      List.Forall₂ (Stat.Turns (.award a)) l l := List.forall₂_same.2 fun s hs => .same (hl s hs)
  have revised {l : List Stat} (i : Nat) (hl : ∀ s ∈ l, s.InBounds) :
      List.Forall₂ (Stat.Turns (.award a)) l (l.modify i (reviseStat a.operation amount)) :=
    forall₂_modify i (fun s hs => .same (hl s hs)) fun s hs => a.reviseStat_turns amount (hl s hs)
  have hstats := h
  unfold Member.stats at hstats
  simp only [List.forall_mem_cons, List.forall_mem_append] at hstats
  obtain ⟨hhits, hspells, hattributes, hskills⟩ := hstats
  unfold revise
  cases a.kind with
  | hitPoints =>
      dsimp only
      split
      -- a loss of hit points is damage
      case isTrue hdecrease =>
        obtain ⟨left, hleft, hle⟩ := m.takeDamage_stats amount
        unfold Member.StatsTurn
        rw [hleft]
        refine .cons ⟨rfl, UInt32.le_trans hle hhits, ?_, fun _ _ _ => hle⟩
          (same fun s hs => h s (List.mem_of_mem_tail hs))
        rintro _ ⟨⟩ hgives
        rw [hdecrease] at hgives
        cases hgives
      case isFalse =>
        exact .cons (a.reviseStat_turns amount hhits) (same fun s hs => h s (List.mem_of_mem_tail hs))
  | spellPoints =>
      exact .cons (.same hhits) (.cons (a.reviseStat_turns amount hspells)
        (List.rel_append (same hattributes) (same hskills)))
  | attributeAt index =>
      exact .cons (.same hhits) (.cons (.same hspells)
        (List.rel_append (revised index.toNat hattributes) (same hskills)))
  | skillAt index =>
      exact .cons (.same hhits) (.cons (.same hspells)
        (List.rel_append (same hattributes) (revised index.toNat hskills)))
  | ailmentAt bit =>
      refine .same h ?_
      show (reviseAilment a.operation bit m).stats = _
      unfold reviseAilment
      split <;> rfl
  | _ => exact .same h rfl

/-- **The stats of a member turn as the member does.** -/
theorem Payload.Turns.stats {settings : Settings} {p : Payload} {m m' : Member}
    (h : p.Turns settings m m') (hm : ∀ s ∈ m.stats, s.InBounds) : m.StatsTurn p m' := by
  cases h with
  | same => exact .same hm rfl
  | packed hp hkind hpacked =>
      obtain ⟨inventory, equipment, rfl⟩ := hpacked
      exact .same hm rfl
  | ailing => exact .same hm rfl
  | settled c new => cases c <;> exact .same hm rfl
  | @awarded a amount hp =>
      rw [hp]
      exact a.revise_stats amount hm
  | @trapped t damage hp =>
      obtain ⟨left, hleft, hle⟩ := m.takeDamage_stats damage
      have hstats : (t.revise damage m).stats = ⟨left, m.hitPoints.max⟩ :: m.stats.tail := by
        unfold Trap.revise
        split
        · exact hleft
        · exact hleft
      unfold Member.StatsTurn
      rw [hstats, hp]
      have hhits := hm m.hitPoints (List.mem_cons_self ..)
      have hother (a : Award) : Payload.trap t ≠ .award a := Payload.noConfusion
      exact .cons ⟨rfl, UInt32.le_trans hle hhits, fun a ha => absurd ha (hother a),
        fun a ha => absurd ha (hother a)⟩
        (List.forall₂_same.2 fun s hs => .same (hm s (List.mem_of_mem_tail hs)))

/-! ## §4. The party. -/

/-- All stats of all members are in bounds. -/
def StatsInBounds (party : List Member) : Prop := ∀ m ∈ party, ∀ s ∈ m.stats, s.InBounds

instance (party : List Member) : Decidable (StatsInBounds party) :=
  inferInstanceAs (Decidable (∀ m ∈ _, ∀ s ∈ _, _))

/-- **What becomes of the stats of the party** at a visit. -/
def Visit.StatsTurn (v : Visit) : Prop :=
  List.Forall₂ (Member.StatsTurn v.node.payload) v.before.save.party v.after.save.party

theorem Payload.TurnsAll.stats {settings : Settings} {p : Payload} {party party' : List Member}
    (h : p.TurnsAll settings party party') (hparty : StatsInBounds party) :
    List.Forall₂ (Member.StatsTurn p) party party' := by
  unfold StatsInBounds at hparty
  induction h with
  | nil => exact .nil
  | cons hturn _ ih =>
      rw [List.forall_mem_cons] at hparty
      exact .cons (hturn.stats hparty.1) (ih hparty.2)

theorem Visit.StatsTurn.inBounds {v : Visit} (h : v.StatsTurn) :
    StatsInBounds v.after.save.party :=
  forall_mem_of_forall₂ h fun _ _ hturn => hturn.inBounds

/-- **The stats of the party, over a run**: in bounds at the start, they turn at every visit, and
stay in bounds all the way. -/
theorem Playthrough.stats_turn (p : Playthrough) (moves : List Move)
    (hstart : StatsInBounds p.save.party) :
    (∀ v ∈ p.allVisits moves, StatsInBounds v.before.save.party ∧ v.StatsTurn)
      ∧ StatsInBounds (p.playAll moves).2.save.party := by
  have turn {v : Visit} (hv : v ∈ p.allVisits moves) (hbefore : StatsInBounds v.before.save.party) :
      v.StatsTurn := (p.allVisits_turn moves v hv).stats hbefore
  obtain ⟨hvisits, hlast⟩ :=
    p.playAll_party moves (fun v hv hbefore => (turn hv hbefore).inBounds) hstart
  exact ⟨fun v hv => ⟨(hvisits v hv).1, turn hv (hvisits v hv).1⟩, hlast⟩

end TileEvents
