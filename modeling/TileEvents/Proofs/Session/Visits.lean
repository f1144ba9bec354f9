/-
  TileEvents.Proofs.Session.Visits
  ────────────────────────────────
  **THE VISITS OF A GAME.**

  Every move of a game makes the visits of at most one walk.  What the host
  does itself leaves the party, the replaced tiles and the tuning of the game
  alone, so whatever the party is at the end came of the visits.

    • `Playthrough.visits`, `allVisits` — the visits of a move and of a run;
    • `Playthrough.plays_or_idles`      — a move plays an interaction or goes nowhere;
    • `Playthrough.play_moved`          — a move is its visits;
    • `Playthrough.allVisits_turn`      — every visit turns the members as its payload says;
    • `Playthrough.playAll_party`       — what every visit keeps of the party, a run keeps.
-/
import TileEvents.Proofs.Party.Turns
import TileEvents.Proofs.Sample
import TileEvents.Proofs.Walk.Visits
import TileEvents.Session.Playthrough

namespace TileEvents

/-! ## §1. The visits of an interaction. -/

namespace Session

/-- The visits of an interaction with a tile. -/
def tileVisits (session : Session) (ctx : Context) (m : GameMap) (x y : UInt8) (trigger : Trigger)
    (s : Scene) : List Visit :=
  match m.activeEvent? s.save x y with
  | none => []
  | some event =>
    match m.chainHead event with
    | .error _ => []
    | .ok head =>
      match session.guard.ask m event trigger with
      | (.ok false, _, records) =>
        walkVisits ctx m ⟨m.index, x, y, some event⟩ head trigger false (s.notes records)
      | _ => []

/-- The visits of an interaction with a character. -/
def characterVisits (session : Session) (ctx : Context) (m : GameMap) (event : UInt16) (x y : UInt8)
    (trigger : Trigger) (s : Scene) : List Visit :=
  match m.chainHead event with
  | .error _ => []
  | .ok head =>
    if session.characterBusy then []
    else walkVisits ctx m ⟨m.index, x, y, none⟩ head trigger false s

variable (session : Session) (ctx : Context) (m : GameMap)

/-- The visits of an interaction with a tile come from that tile and its event. -/
theorem tileVisits_origin (x y : UInt8) (trigger : Trigger) (s : Scene) :
    ∀ v ∈ session.tileVisits ctx m x y trigger s,
      ∃ event, m.tileEvent? x y = some event ∧ v.origin = ⟨m.index, x, y, some event⟩ := by
  intro v hv
  unfold tileVisits at hv
  split at hv
  · cases hv
  · next event hevent =>
      split at hv
      · cases hv
      · split at hv
        · refine ⟨event, (Option.filter_eq_some_iff.1 hevent).1, ?_⟩
          exact visitsFrom_origin ctx m _ _ _ _ _ v hv
        · cases hv

/-- Those of an interaction with a character come from where the character stands. -/
theorem characterVisits_origin (event : UInt16) (x y : UInt8) (trigger : Trigger) (s : Scene) :
    ∀ v ∈ session.characterVisits ctx m event x y trigger s, v.origin = ⟨m.index, x, y, none⟩ := by
  unfold characterVisits
  split
  · exact List.forall_mem_nil _
  · split
    · exact List.forall_mem_nil _
    · exact visitsFrom_origin ctx m _ _ _ _ _

theorem leads_onTile (x y : UInt8) (trigger : Trigger) (s : Scene) :
    Leads ctx m s (session.tileVisits ctx m x y trigger s)
      (session.onTile ctx m x y trigger s).2.2 := by
  unfold onTile tileVisits
  cases m.activeEvent? s.save x y with
  | none => exact .rest (.of_save rfl rfl rfl)
  | some event =>
      simp only
      cases m.chainHead event with
      | error e => exact .rest (.of_save rfl rfl rfl)
      | ok head =>
          simp only [RepeatGuard.ask]
          -- only an event that the guard lets through is walked
          cases session.guard.holdsBack m event trigger with
          | error e => exact .rest (.of_save rfl rfl rfl)
          | ok held =>
              cases held with
              | true => exact .rest (.of_save rfl rfl rfl)
              | false =>
                  exact .after_steady (.of_save rfl rfl rfl) (leads_walk ctx m _ head trigger false _)

theorem leads_onCharacter (event : UInt16) (x y : UInt8) (trigger : Trigger) (s : Scene) :
    Leads ctx m s (session.characterVisits ctx m event x y trigger s)
      (session.onCharacter ctx m event x y trigger s).2.2 := by
  unfold onCharacter characterVisits
  cases m.chainHead event with
  | error e => exact .rest (.of_save rfl rfl rfl)
  | ok head =>
      cases session.characterBusy with
      | true => exact .rest (.of_save rfl rfl rfl)
      | false => exact leads_walk ctx m _ head trigger false s

end Session

/-! ## §2. The visits of a move. -/

namespace Move

/-- The position of the map that a move is made on. -/
def stage? : Move → Option Nat
  | .tile stage .. | .character stage .. | .walk stage .. | .resume stage .. | .forge stage ..
  | .inspectTarget stage _ | .place stage .. => some stage
  | _ => none

/-- What the host itself makes of the savegame in a move. -/
def write : Move → Savegame → Savegame
  | .setHour hour, save => { save with hour := hour }
  | .setActive member, save => { save with activeMember := member }
  | .setEventBit address on, save => save.setEventBit address on
  | _, save => save

/-- The host writes nothing in a move that is made on a map. -/
theorem write_of_stage? {move : Move} {stage : Nat} (h : move.stage? = some stage)
    (save : Savegame) : move.write save = save := by
  cases move with
  | setHour | setActive | setEventBit => cases h
  | _ => rfl

/-- The host leaves the party alone. -/
theorem write_party (move : Move) (save : Savegame) : (move.write save).party = save.party := by
  cases move <;> rfl

/-- It leaves the replaced tiles alone, too. -/
theorem write_tileChanges (move : Move) (save : Savegame) :
    (move.write save).tileChanges = save.tileChanges := by
  cases move <;> rfl

end Move

namespace Playthrough

/-- The visits on the map at a position, if there is one. -/
def visitsOn (p : Playthrough) (stage : Nat) (visits : GameMap → Scene → List Visit) : List Visit :=
  match p.stages[stage]? with
  | none => []
  | some st => visits st.map ⟨p.save, p.dice, st.settled, #[], #[]⟩

/-- **The visits of a move.** -/
def visits (p : Playthrough) : Move → List Visit
  | .tile stage x y interaction => p.visitsOn stage fun m s =>
      p.session.tileVisits p.context m x y interaction.trigger s
  | .character stage event x y interaction => p.visitsOn stage fun m s =>
      p.session.characterVisits p.context m event x y interaction.trigger s
  | .walk stage start interaction origin status => p.visitsOn stage fun m s =>
      walkVisits p.context m origin start interaction.trigger status s
  | .resume stage which answer =>
    match p.suspension? which with
    | none => []
    | some w => p.visitsOn stage fun m s => resumeVisits p.context m w answer s
  | .forge stage w answer => p.visitsOn stage fun m s => resumeVisits p.context m w answer s
  | _ => []

/-- The visits of several moves, each made on the game that the ones before it left. -/
def allVisits (p : Playthrough) : List Move → List Visit
  | [] => []
  | move :: rest => p.visits move ++ (p.play move).2.allVisits rest

/-- **What a move does**: its visits lead from the game as it was, with no request made yet, to the
game it leaves and the requests it reports, but for what the host writes. -/
structure Moved (p : Playthrough) (move : Move) (visits : List Visit) (r : Report × Playthrough)
    (m : GameMap) (s s' : Scene) : Prop where
  begins : s.save = p.save
  silent : s.calls = #[]
  leads : Leads p.context m s visits s'
  calls : r.1.calls = s'.calls
  save : r.2.save = move.write s'.save
  settings : r.2.context.settings = p.context.settings

theorem Moved.party {p : Playthrough} {move : Move} {visits : List Visit} {r : Report × Playthrough}
    {m : GameMap} {s s' : Scene} (h : p.Moved move visits r m s s') :
    r.2.save.party = s'.save.party := by
  rw [h.save, move.write_party]

theorem Moved.tileChanges {p : Playthrough} {move : Move} {visits : List Visit}
    {r : Report × Playthrough} {m : GameMap} {s s' : Scene} (h : p.Moved move visits r m s s') :
    r.2.save.tileChanges = s'.save.tileChanges := by
  rw [h.save, move.write_tileChanges]

/-- A map that is put in the place of another stands there. -/
theorem setStage_self {p : Playthrough} {stage : Nat} {st : Stage}
    (hst : p.stages[stage]? = some st) (st' : Stage) :
    (p.stages.setIfInBounds stage st')[stage]? = some st' := by
  obtain ⟨hlt, -⟩ := Array.getElem?_eq_some_iff.1 hst
  rw [Array.getElem?_setIfInBounds_self, if_pos hlt]

/-- **A move plays an interaction** on the map at a position, and its visits lead through it. -/
structure Plays (p : Playthrough) (move : Move) (stage : Nat) (f : Interplay)
    (visits : GameMap → Scene → List Visit) : Prop where
  isOn : move.stage? = some stage
  played : p.play move = p.interact stage f
  visited : p.visits move = p.visitsOn stage visits
  leads : ∀ m s, Leads p.context m s (visits m s) (f p.context m p.session s).2.2

/-- **A move that goes nowhere**: the next game differs from this one in what no walk has done. -/
structure Idles (p : Playthrough) (move : Move) (q : Playthrough) : Prop where
  save : q.save = move.write p.save
  settings : q.context.settings = p.context.settings
  stages : ∀ {stage : Nat} {st : Stage}, p.stages[stage]? = some st →
    ∃ st', q.stages[stage]? = some st' ∧ st'.map.nodes = st.map.nodes ∧ st'.settled = st.settled

/-- The maps may be as they were. -/
theorem Idles.of_stages {p q : Playthrough} {move : Move} (hsave : q.save = move.write p.save)
    (hsettings : q.context.settings = p.context.settings) (hstages : q.stages = p.stages) :
    p.Idles move q :=
  ⟨hsave, hsettings, fun {_ st} hst => ⟨st, hstages ▸ hst, rfl, rfl⟩⟩

/-- An event may have been placed on one of them. -/
theorem idles_place {p : Playthrough} {stage : Nat} {st : Stage} (hst : p.stages[stage]? = some st)
    (x y : UInt8) (event : UInt16) :
    p.Idles (.place stage x y event) { p with
      stages := p.stages.setIfInBounds stage { st with map := st.map.placeEvent x y event } } := by
  refine ⟨rfl, rfl, fun {stage' st'} hst' => ?_⟩
  by_cases hstage : stage = stage'
  · subst hstage
    obtain rfl := Option.some.inj (hst.symm.trans hst')
    exact ⟨_, setStage_self hst _, rfl, rfl⟩
  · exact ⟨st', (Array.getElem?_setIfInBounds_ne hstage).trans hst', rfl, rfl⟩

/-- **Every move plays an interaction or goes nowhere.** -/
theorem plays_or_idles (p : Playthrough) (move : Move) :
    (∃ stage f visits, p.Plays move stage f visits)
      ∨ p.visits move = [] ∧ ∃ q result, p.play move = q.quietly result ∧ p.Idles move q := by
  cases move with
  | tile stage x y interaction =>
      exact .inl ⟨stage, fun ctx m session s => session.onTile ctx m x y interaction.trigger s,
        fun m s => p.session.tileVisits p.context m x y interaction.trigger s,
        rfl, rfl, rfl, fun m s => p.session.leads_onTile p.context m x y _ s⟩
  | character stage event x y interaction =>
      exact .inl ⟨stage,
        fun ctx m session s => session.onCharacter ctx m event x y interaction.trigger s,
        fun m s => p.session.characterVisits p.context m event x y interaction.trigger s,
        rfl, rfl, rfl, fun m s => p.session.leads_onCharacter p.context m event x y _ s⟩
  | walk stage start interaction origin status =>
      exact .inl ⟨stage,
        .ofWalk fun ctx m s => TileEvents.walk ctx m origin start interaction.trigger status s,
        fun m s => walkVisits p.context m origin start interaction.trigger status s,
        rfl, rfl, rfl, fun m s => leads_walk p.context m origin start _ status s⟩
  | forge stage w answer =>
      exact .inl ⟨stage, .ofWalk fun ctx m s => resume ctx m w answer s,
        fun m s => resumeVisits p.context m w answer s,
        rfl, rfl, rfl, fun m s => leads_resume p.context m w answer s⟩
  -- an answer looks for its suspension first and may find none
  | resume stage which answer =>
      cases hw : p.suspension? which with
      | none =>
          exact .inr ⟨by simp only [visits, hw], p, .noSuspension, by simp only [play, hw],
            .of_stages rfl rfl rfl⟩
      | some w =>
          refine .inl ⟨stage, .ofWalk fun ctx m s => resume ctx m w answer s,
            fun m s => resumeVisits p.context m w answer s, rfl, ?_, ?_, ?_⟩
          · simp only [play, hw]
          · simp only [visits, hw]
          · exact fun m s => leads_resume p.context m w answer s
  -- the next two ask or change a map, if it is there
  | inspectTarget stage id =>
      cases hst : p.stages[stage]? with
      | none => exact .inr ⟨rfl, p, .noStage, by simp only [play, hst], .of_stages rfl rfl rfl⟩
      | some st =>
          exact .inr ⟨rfl, p, targetOf st id, by simp only [play, hst], .of_stages rfl rfl rfl⟩
  | place stage x y event =>
      cases hst : p.stages[stage]? with
      | none => exact .inr ⟨rfl, p, .noStage, by simp only [play, hst], .of_stages rfl rfl rfl⟩
      | some st =>
          exact .inr ⟨rfl, _, .done, by simp only [play, hst], idles_place hst x y event⟩
  | _ => exact .inr ⟨rfl, _, _, rfl, .of_stages rfl rfl rfl⟩

/-- **Every move is its visits.** -/
theorem play_moved (p : Playthrough) (move : Move) :
    ∃ m s s', p.Moved move (p.visits move) (p.play move) m s s' := by
  have stays {q : Playthrough} (result : MoveResult) (hsave : q.save = move.write p.save)
      (hsettings : q.context.settings = p.context.settings) :
      ∃ m s s', p.Moved move [] (q.quietly result) m s s' :=
    ⟨.ofNodes [] [], ⟨p.save, p.dice, [], #[], #[]⟩, ⟨p.save, p.dice, [], #[], #[]⟩, rfl, rfl,
      .rest (.of_save rfl rfl rfl), rfl, hsave, hsettings⟩
  rcases p.plays_or_idles move with ⟨stage, f, visits, hplays⟩ | ⟨hnone, q, result, hplay, hidles⟩
  · have hwrite := Move.write_of_stage? hplays.isOn
    rw [hplays.played, hplays.visited]
    unfold interact visitsOn
    cases p.stages[stage]? with
    | none => exact stays .noStage (hwrite p.save).symm rfl
    | some st =>
        exact ⟨st.map, _, _, rfl, rfl, hplays.leads st.map _, rfl, (hwrite _).symm, rfl⟩
  · rw [hplay, hnone]
    exact stays result hidles.save hidles.settings

/-! ## §3. Runs. -/

/-- **Every visit of a run turns the members as its payload says.** -/
theorem allVisits_turn (moves : List Move) : ∀ p : Playthrough, ∀ v ∈ p.allVisits moves,
    v.node.payload.TurnsAll p.context.settings v.before.save.party v.after.save.party := by
  -- on the moves; none of them changes the settings
  induction moves with
  | nil => exact fun _ => List.forall_mem_nil _
  | cons move moves ih =>
      intro p v hv
      obtain ⟨m, s, s', hmoved⟩ := p.play_moved move
      rcases List.mem_append.1 hv with hv | hv
      · obtain ⟨_, _, _, _, hstep⟩ := hmoved.leads.happens v hv
        exact Node.step_turns hstep
      · rw [← hmoved.settings]
        exact ih (p.play move).2 v hv

/-- What every visit keeps of the party, a move keeps. -/
theorem play_party {P : List Member → Prop} (p : Playthrough) (move : Move)
    (hkeep : ∀ v ∈ p.visits move, P v.before.save.party → P v.after.save.party)
    (hp : P p.save.party) :
    (∀ v ∈ p.visits move, P v.before.save.party ∧ P v.after.save.party)
      ∧ P (p.play move).2.save.party := by
  obtain ⟨m, s, s', hmoved⟩ := p.play_moved move
  rw [hmoved.party]
  refine hmoved.leads.invariant (I := fun s => P s.save.party) ?_ hkeep ?_
  · intro s s' hsteady hs
    rw [hsteady.party]
    exact hs
  · rw [hmoved.begins]
    exact hp

/-- **What every visit keeps of the party, a run keeps.** -/
theorem playAll_party {P : List Member → Prop} (moves : List Move) : ∀ p : Playthrough,
    (∀ v ∈ p.allVisits moves, P v.before.save.party → P v.after.save.party) → P p.save.party →
    (∀ v ∈ p.allVisits moves, P v.before.save.party ∧ P v.after.save.party)
      ∧ P (p.playAll moves).2.save.party := by
  -- on the moves; each leaves the party the next begins with
  induction moves with
  | nil => exact fun _ _ hp => ⟨List.forall_mem_nil _, hp⟩
  | cons move moves ih =>
      intro p hkeep hp
      unfold allVisits at hkeep ⊢
      rw [List.forall_mem_append] at hkeep ⊢
      obtain ⟨hvisits, hplayed⟩ := p.play_party move hkeep.1 hp
      obtain ⟨hrest, hlast⟩ := ih (p.play move).2 hkeep.2 hplayed
      exact ⟨⟨hvisits, hrest⟩, hlast⟩

end Playthrough

end TileEvents
