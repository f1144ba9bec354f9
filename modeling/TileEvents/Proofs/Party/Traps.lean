/-
  TileEvents.Proofs.Party.Traps
  ─────────────────────────────
  **A TRAP TELLS WHAT IT DID.**

  A trap throws a damage for each of its targets, hurts them one after the
  other and reports what it took from each.  The targets are settled before
  anybody is hurt, so the report names the living members it was aimed at, each
  once and in party order.  A member is hurt once, so what is left of the hit
  points at the end and the damage reported add up to what there was.

    • `Trap.reach_hits`              — the hits, target by target;
    • `Trap.spring_reports`          — a trap that is sprung reports truly;
    • `Playthrough.play_tells`       — so does a move that stops at a trap;
    • `stats_in_bounds_and_traps_true` — a run, with all stats in bounds.
-/
import TileEvents.Proofs.Dice.Range
import TileEvents.Proofs.Party.Mortality
import TileEvents.Proofs.Party.Stats
import TileEvents.Proofs.Session.Prompts

namespace TileEvents

namespace Trap

/-! ## §1. One target after the other. -/

section Reaching

variable (t : Trap) (id : NodeId)

/-- What is thrown is no more than the base damage. -/
theorem damageFor_le (s : Scene) : (t.damageFor s).1.toNat ≤ t.baseDamage.toNat := by
  unfold damageFor
  split
  case isTrue => exact Nat.zero_le _
  case isFalse hbase =>
    have hbase : t.baseDamage.toNat ≠ 0 := fun hzero => hbase (UInt8.toNat_inj.1 hzero)
    have hone : (1 : UInt32) ≤ t.baseDamage.toUInt32 := by
      rw [UInt32.le_iff_toNat_le, UInt8.toNat_toUInt32]
      exact Nat.pos_of_ne_zero hbase
    have hthrow := (Dice.between_bounds hone s.dice).2
    rw [UInt32.le_iff_toNat_le, UInt8.toNat_toUInt32] at hthrow
    exact hthrow

/-- A target is hurt and reported, and then come the others. -/
theorem reach_cons {s : Scene} {position : Nat} {m : Member} (rest : List Nat)
    (hm : s.save.party[position]? = some m) :
    ∃ s' : Scene, s'.save.party = s.save.party.modify position (t.revise (t.damageFor s).1)
      ∧ t.reach id (position :: rest) s
          = (⟨position, m.damageTaken (t.damageFor s).1, t.ailment⟩ :: (t.reach id rest s').1,
            (t.reach id rest s').2) := by
  have hthrown : (t.damageFor s).2.save = s.save := by
    unfold damageFor
    split <;> rfl
  refine ⟨((t.damageFor s).2.setSave ((t.damageFor s).2.save.reviseMember position
    (t.revise (t.damageFor s).1))).remark id
      s!"trap hits {m.name} for {m.damageTaken (t.damageFor s).1}", ?_, ?_⟩
  · show (t.damageFor s).2.save.party.modify position _ = _
    rw [hthrown]
  · rw [reach]
    dsimp only
    rw [hthrown, hm]

/-- A hit is what the damage thrown for the member really took. -/
def Hits (h : TrapHit) (before after : List Member) : Prop :=
  ∃ thrown m, before[h.member]? = some m ∧ after[h.member]? = some (t.revise thrown m)
    ∧ h.damage = m.damageTaken thrown ∧ thrown.toNat ≤ t.baseDamage.toNat

/-- **The hits, target by target.** -/
theorem reach_hits {positions : List Nat} (hnodup : positions.Nodup) {s : Scene}
    (hthere : ∀ i ∈ positions, ∃ m, s.save.party[i]? = some m) :
    (t.reach id positions s).1.map TrapHit.member = positions
      ∧ ∀ h ∈ (t.reach id positions s).1,
          t.Hits h s.save.party (t.reach id positions s).2.save.party := by
  induction positions generalizing s with
  | nil => exact ⟨rfl, List.forall_mem_nil _⟩
  | cons position rest ih =>
      obtain ⟨hfresh, hrest⟩ := List.nodup_cons.1 hnodup
      rw [List.forall_mem_cons] at hthere
      obtain ⟨m, hm⟩ := hthere.1
      obtain ⟨s', hparty, hreach⟩ := t.reach_cons id rest hm
      -- to hurt the first target leaves the others where and as they are
      have hothers {i : Nat} (hi : i ∈ rest) : s'.save.party[i]? = s.save.party[i]? := by
        have hne : position ≠ i := fun heq => hfresh (heq ▸ hi)
        rw [hparty, List.getElem?_modify]
        simp [hne]
      obtain ⟨hmembers, hhits⟩ := ih hrest (s := s') fun i hi => by
        rw [hothers hi]
        exact hthere.2 i hi
      rw [hreach, List.map_cons, hmembers, List.forall_mem_cons]
      refine ⟨rfl, ?_, ?_⟩
      · refine ⟨(t.damageFor s).1, m, hm, ?_, rfl, t.damageFor_le s⟩
        -- and the others do not come back to the first
        rw [(t.reach_revised id rest s').getElem?_of_not_mem hfresh, hparty, List.getElem?_modify,
          hm]
        simp
      · intro h hh
        obtain ⟨thrown, m', hm', hafter, htaken⟩ := hhits h hh
        have hmember : h.member ∈ rest := by
          rw [← hmembers]
          exact List.mem_map_of_mem hh
        exact ⟨thrown, m', (hothers hmember) ▸ hm', hafter, htaken⟩

end Reaching

/-! ## §2. The report. -/

/-- **The hits that a trap reports are true of what it did**: they name the living members it was
aimed at, each once and in party order, and with each the hit points lost, which are no more than the
base damage.  Nobody else was touched. -/
structure Reports (t : Trap) (hits : List TrapHit) (before after : Savegame) : Prop where
  inOrder : (hits.map TrapHit.member).Pairwise (· < ·)
  targets : ∀ i, i ∈ hits.map TrapHit.member
    ↔ (∃ m, before.party[i]? = some m ∧ m.isAlive = true)
      ∧ (t.target = .activePlayer → i = before.activeMember.toNat)
  lost : ∀ h ∈ hits, ∃ m m', before.party[h.member]? = some m ∧ after.party[h.member]? = some m'
    ∧ m'.hitPoints.current.toNat + h.damage.toNat = m.hitPoints.current.toNat
  bounded : ∀ h ∈ hits, h.damage.toNat ≤ t.baseDamage.toNat
  others : ∀ i, i ∉ hits.map TrapHit.member → after.party[i]? = before.party[i]?

/-- A trap takes hit points as damage does. -/
theorem revise_hitPoints (t : Trap) (damage : UInt32) (m : Member) :
    (t.revise damage m).hitPoints = (m.takeDamage damage).hitPoints := by
  unfold revise
  split <;> rfl

/-- **A trap that is sprung reports truly.** -/
theorem spring_reports (t : Trap) (id : NodeId) (s : Scene) :
    t.Reports (t.spring id s).1 s.save (t.spring id s).2.save := by
  have hnodup := t.target.members_nodup s.save.party s.save.activeMember.toNat
  obtain ⟨hmembers, hhits⟩ := t.reach_hits id hnodup (s := s) fun i hi => by
    obtain ⟨m, hm, -⟩ := Audience.members_living hi
    exact ⟨m, hm⟩
  have hrevised := t.reach_revised id (t.target.members s.save.party s.save.activeMember.toNat) s
  unfold spring
  constructor
  case inOrder =>
    rw [hmembers]
    exact t.target.members_ascending _ _
  case targets =>
    intro i
    rw [hmembers]
    exact Audience.mem_members
  case lost =>
    intro h hh
    obtain ⟨thrown, m, hm, hafter, htaken, -⟩ := hhits h hh
    refine ⟨m, _, hm, hafter, ?_⟩
    rw [revise_hitPoints, htaken]
    exact m.toNat_takeDamage thrown
  case bounded =>
    intro h hh
    obtain ⟨thrown, m, -, -, htaken, hthrown⟩ := hhits h hh
    have hle : m.damageTaken thrown ≤ thrown := by
      unfold Member.damageTaken
      split
      case isTrue => exact UInt32.le_refl _
      case isFalse hgt => exact UInt32.le_of_lt (UInt32.not_le.1 hgt)
    rw [htaken]
    exact Nat.le_trans (UInt32.le_iff_toNat_le.1 hle) hthrown
  case others =>
    intro i hi
    rw [hmembers] at hi
    exact hrevised.getElem?_of_not_mem hi

end Trap

/-! ## §3. A move. -/

/-- **The visit sprang the trap that the suspension shows**, and the hits are true of it. -/
def Visit.Tells (v : Visit) (w : Suspension) (hits : List TrapHit) : Prop :=
  v.origin = w.origin
    ∧ ∃ t, v.node.payload = .trap t ∧ t.Reports hits v.before.save v.after.save

/-- A step that asks the player to look at hits has sprung a trap. -/
theorem Node.step_reports {ctx : Context} {m : GameMap} {origin : Origin} {n : Node} {c c' : Cursor}
    {s s' : Scene} {hits : List TrapHit}
    (h : n.step ctx m origin c s = (.ok (.await (.trap hits), c'), s')) :
    ∃ t, n.payload = .trap t ∧ t.Reports hits s.save s'.save := by
  have hasks := (Node.step_allows h).2.asks _ rfl
  obtain ⟨id, declared, next, payload⟩ := n
  cases payload with
  | trap t =>
      refine ⟨t, rfl, ?_⟩
      unfold step at h
      split at h
      · cases h
      · simp only [perform] at h
        have hsprung := t.spring_reports id (s.remark id s!"{declared.inspect} ({c.trigger.name})")
        cases htrigger : c.trigger with
        | move | always =>
            rw [htrigger] at h hsprung
            cases h
            exact hsprung
        | _ =>
            rw [htrigger] at h
            cases h
  | _ => cases hasks

namespace Playthrough

/-- **A move that stops at a trap tells what the trap did**, unless no node ran and it hands back
what was handed in. -/
theorem play_tells {p : Playthrough} {move : Move} {w : Suspension} {hits : List TrapHit}
    (h : (p.play move).1.result = .walked (.ok (.suspended w))) (hw : w.prompt = .trap hits) :
    (∃ v, (p.visits move).getLast? = some v ∧ v.Tells w hits)
      ∨ p.visits move = [] ∧ p.HandsIn w move := by
  obtain ⟨m, ⟨v, hlast, -, horigin, c, c', hstep⟩ | hback⟩ := play_suspends h
  · rw [hw] at hstep
    exact .inl ⟨v, hlast, horigin, Node.step_reports hstep⟩
  · exact .inr hback

/-! ## §4. A run. -/

/-- Every suspension of a run that shows a trap tells what the trap did, unless it was there before
or was made up. -/
theorem playAll_tells (moves : List Move) : ∀ p : Playthrough,
    ∀ w ∈ (p.playAll moves).2.suspensions, ∀ hits, w.prompt = .trap hits →
      w ∈ p.suspensions ∨ (∃ stage answer, Move.forge stage w answer ∈ moves)
        ∨ ∃ v ∈ p.allVisits moves, v.Tells w hits := by
  induction moves with
  | nil => exact fun p w hw _ _ => .inl hw
  | cons move moves ih =>
      intro p w hw hits hprompt
      rcases ih (p.play move).2 w hw hits hprompt with
        hkept | ⟨stage, answer, hforged⟩ | ⟨v, hv, htells⟩
      · rcases play_suspensions hkept with hbefore | hresult
        · exact .inl hbefore
        · rcases play_tells hresult hprompt with ⟨v, hlast, htells⟩ | ⟨-, hback⟩
          · have hv := List.mem_of_getLast? hlast
            exact .inr (.inr ⟨v, List.mem_append_left _ hv, htells⟩)
          -- what was handed in was returned before, or made up
          · cases move with
            | resume stage which answer => exact .inl (suspension?_mem hback)
            | forge stage w' answer =>
                obtain rfl : w' = w := hback
                exact .inr (.inl ⟨stage, answer, List.mem_cons_self⟩)
            | _ => exact absurd hback id
      · exact .inr (.inl ⟨stage, answer, List.mem_cons_of_mem _ hforged⟩)
      · exact .inr (.inr ⟨v, List.mem_append_right _ hv, htells⟩)

end Playthrough

/-- **Stats stay in bounds and traps tell the truth.**  Suppose that all stats are in bounds when a
run begins.  Then they are before and after every visit and at the end; an award that gives lowers no
current value, and one that takes raises none.  Whatever move is made next, a suspension it returns
that shows a trap tells what the last visit did, or no node ran and it is the one handed in; so that
every such suspension of the run tells what some visit did, unless the host had it before or made it
up. -/
theorem stats_in_bounds_and_traps_true (p : Playthrough) (moves : List Move)
    (hstart : StatsInBounds p.save.party) :
    (∀ v ∈ p.allVisits moves, StatsInBounds v.before.save.party ∧ v.StatsTurn)
      ∧ StatsInBounds (p.playAll moves).2.save.party
      ∧ (∀ (move : Move) (w : Suspension) (hits : List TrapHit), let q := (p.playAll moves).2
          (q.play move).1.result = .walked (.ok (.suspended w)) → w.prompt = .trap hits →
          (∃ v, (q.visits move).getLast? = some v ∧ v.Tells w hits)
            ∨ q.visits move = [] ∧ q.HandsIn w move)
      ∧ ∀ w ∈ (p.playAll moves).2.suspensions, ∀ hits, w.prompt = .trap hits →
          w ∈ p.suspensions ∨ (∃ stage answer, Move.forge stage w answer ∈ moves)
            ∨ ∃ v ∈ p.allVisits moves, v.Tells w hits := by
  obtain ⟨hvisits, hlast⟩ := p.stats_turn moves hstart
  refine ⟨hvisits, hlast, ?_, p.playAll_tells moves⟩
  intro move w hits q hresult hprompt
  exact Playthrough.play_tells hresult hprompt

/-- Two members gain half of their hit points and are cut down to the largest, and meet a trap that
takes one from each; coming back they meet it again. -/
theorem stats_in_bounds_and_traps_true_again :
    let p := Playthrough.ordeal
      [⟨⟨0⟩, .award, some ⟨1⟩, .award ⟨.everyone, .hitPoints, .increasePercentage, false, 50⟩⟩,
        ⟨⟨1⟩, .trap, none, .trap ⟨.everyone, 9, none⟩⟩] [⟨10, 10⟩, ⟨2, 8⟩]
    let moves : List Move := [.character 0 1 0 0 .step, .endTick, .character 0 1 0 0 .step]
    let hits : List TrapHit := [⟨0, 1, none⟩, ⟨1, 1, none⟩]
    let w : Suspension := ⟨.trap hits, ⟨1, 0, 0, none⟩, ⟨1⟩, false⟩
    let party := (p.playAll moves).2.save.party
    party.map (·.hitPoints) = [⟨9, 10⟩, ⟨7, 8⟩] ∧ StatsInBounds party
      ∧ ∃ v ∈ p.allVisits moves, v.Tells w hits := by
  intro p moves hits w party
  obtain ⟨-, hbounds, -, htold⟩ := stats_in_bounds_and_traps_true p moves (by decide +kernel)
  refine ⟨by decide +kernel, hbounds, ?_⟩
  have hreturned : w ∈ (p.playAll moves).2.suspensions := by decide +kernel
  have hforged : ¬ ∃ stage answer, Move.forge stage w answer ∈ moves := by simp [moves]
  have hbefore : w ∉ p.suspensions := by decide +kernel
  exact ((htold w hreturned hits rfl).resolve_left hbefore).resolve_left hforged

end TileEvents
