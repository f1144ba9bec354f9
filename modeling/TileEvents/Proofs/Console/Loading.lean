/-
  TileEvents.Proofs.Console.Loading
  ─────────────────────────────────
  **WHAT OUTLIVES THE LOADING OF A SAVEGAME.**

  To load a savegame gives up the walk that waits and clears the guard.  Of the
  play before it two things remain: whether a character was talked to in this
  tick, and the targets that tile replacements with an open field have settled
  on.  Two consoles that agree in these, in the dice and in the tick cannot be
  told apart by playing on after they loaded the same savegame.

    • `Alike`                        — what playing cannot tell apart;
    • `execute_alike`                — one command;
    • `playAll_alike`                — the induction over commands;
    • `settled_execute`              — what any command leaves settled;
    • `restore_alike`                — consoles after loading;
    • `loading_forgets`              — two histories and one savegame;
    • `loading_keeps_tick_and_targets` — what has to be equal beforehand.
-/
import TileEvents.Proofs.Console.Executing
import TileEvents.Proofs.Definition.Closed
import TileEvents.Proofs.Sample
import TileEvents.Proofs.Savegame.RoundTrip
import TileEvents.Proofs.Session.Visits
import TileEvents.Proofs.Walk.Alike

namespace TileEvents

/-- Commands that play on: interactions, answers, ticks and the guard. -/
def Command.plays : Command → Bool
  | .interact .. | .character .. | .respond _ | .endTick | .resetGuard => true
  | _ => false

/-- A tile with a field that is filled in from where a walk comes from. -/
def TileTarget.isOpen (t : TileTarget) : Bool := t.map == 0 || t.x == 0 || t.y == 0

namespace Console

/-! ## §1. Consoles that cannot be told apart. -/

/-- **The consoles differ in the settled targets and the path of the savegame alone**, and not in
what replacements aim at. -/
structure Alike (c c' : Console) : Prop where
  map : c'.map = c.map
  save : c'.save = c.save
  context : c'.context = c.context
  session : c'.session = c.session
  dice : c'.dice = c.dice
  pending : c'.pending = c.pending
  tick : c'.tick = c.tick
  aims : c.map.AimsAlike c.scene c'.scene

/-- Two turns that show the same and leave consoles that cannot be told apart. -/
structure SameTurn (t t' : Turn) : Prop where
  notices : t'.notices = t.notices
  console : t.console.Alike t'.console

namespace Alike

variable {c c' : Console}

/-- Walks at such consoles begin in alike scenes. -/
theorem scene (h : c.Alike c') : c.scene.Alike c.map c'.scene where
  same := by
    unfold Console.scene
    rw [h.save, h.dice]
    rfl
  aims := h.aims

/-- They show the same of the requests of alike scenes. -/
theorem worldNotices (h : c.Alike c') {s s' : Scene} (hs : s.Alike c.map s') :
    worldNotices c'.map s' = worldNotices c.map s := by
  rw [h.map, hs.same]
  rfl

/-- Alike scenes are left to consoles that cannot be told apart. -/
theorem afterScene (h : c.Alike c') {s s' : Scene} (hs : s.Alike c.map s') :
    (c.afterScene s).Alike (c'.afterScene s') where
  map := h.map
  save := hs.save
  context := h.context
  session := h.session
  dice := by
    show s'.dice = s.dice
    rw [hs.same]
    rfl
  pending := h.pending
  tick := h.tick
  aims := hs.aims_congr rfl rfl

/-- A walk that takes the same course ends in the same turn. -/
theorem finish (h : c.Alike c') (result : Except ChainError Outcome) (session : Session)
    {s s' : Scene} (hs : s.Alike c.map s') :
    SameTurn (c.finish result session s) (c'.finish result session s') where
  notices := by
    show Console.worldNotices c'.map s' ++ endNotices c'.map result = _
    rw [h.worldNotices hs, h.map]
    rfl
  console :=
    { h.afterScene hs with
      session := rfl
      pending := rfl
      aims := hs.aims_congr rfl rfl }

end Alike

/-! ## §2. Playing on. -/

variable {c c' : Console}

/-- An interaction that comes while a walk waits is refused in the same words. -/
theorem refuse_alike (h : c.Alike c') (w : Suspension) : SameTurn (c.refuse w) (c'.refuse w) where
  notices := by
    unfold refuse
    rw [h.map]
    rfl
  console := h

theorem interact_alike (h : c.Alike c') (interaction : Interaction) (x y : UInt8) :
    SameTurn (c.interact interaction x y) (c'.interact interaction x y) := by
  unfold interact
  rw [h.pending]
  cases c.pending with
  | some w => exact refuse_alike h w
  | none =>
      dsimp only
      rw [h.map, h.context, h.session]
      obtain ⟨hresult, hsession, hscene⟩ := c.session.onTile_alike c.context x y interaction.trigger
        (h.scene.note .info
          s!"{interaction.inspect} at ({x}, {y}) classified as {interaction.trigger.name}")
      rw [hresult, hsession]
      exact h.finish _ _ hscene

theorem talk_alike (h : c.Alike c') (event : UInt16) (x y : UInt8) :
    SameTurn (c.talk event x y) (c'.talk event x y) := by
  unfold talk
  rw [h.pending]
  cases c.pending with
  | some w => exact refuse_alike h w
  | none =>
      dsimp only
      rw [h.map, h.context, h.session]
      obtain ⟨hresult, hsession, hscene⟩ :=
        c.session.onCharacter_alike c.context event x y Interaction.talk.trigger h.scene
      rw [hresult, hsession]
      exact h.finish _ _ hscene

theorem respond_alike (h : c.Alike c') (a : Answer) : SameTurn (c.respond a) (c'.respond a) := by
  unfold respond
  rw [h.pending]
  cases c.pending with
  | none => exact ⟨rfl, h⟩
  | some w =>
      dsimp only
      rw [h.map, h.context, h.session]
      obtain ⟨hresult, hscene⟩ := resume_alike c.context w a h.scene
      generalize resume c.context c.map w a c.scene = r at hresult hscene
      generalize resume c.context c.map w a c'.scene = r' at hresult hscene
      obtain ⟨result, s⟩ := r
      obtain ⟨result', s'⟩ := r'
      subst hresult
      cases result with
      | ok outcome => exact h.finish _ _ hscene
      | error e =>
          cases e with
          -- an answer that does not fit leaves the walk waiting
          | unexpectedResponse id a =>
              refine ⟨?_, h.afterScene hscene⟩
              show worldNotices c.map s' ++ _ = worldNotices c.map s ++ _
              rw [← h.worldNotices hscene, h.map]
          | _ => exact h.finish _ _ hscene

/-- **A command of play cannot tell such consoles apart.** -/
theorem execute_alike (h : c.Alike c') {command : Command} (hcommand : command.plays = true)
    (d d' : Disk) : SameTurn ((c.execute command).run d).1 ((c'.execute command).run d').1 := by
  cases command with
  | interact interaction x y => exact interact_alike h interaction x y
  | character event x y => exact talk_alike h event x y
  | respond a => exact respond_alike h a
  | endTick =>
      have htick : c'.nextTick.tick = c.nextTick.tick := congrArg (· + 1) h.tick
      refine ⟨?_, { h with session := congrArg Session.endTick h.session, tick := htick }⟩
      exact congrArg (fun t => [Notice.outcome s!"tick {t} begins"]) htick
  | resetGuard => exact ⟨rfl, { h with session := congrArg Session.forget h.session }⟩
  | _ => cases hcommand

/-- **What is shown for each of several commands**, executed one after the other. -/
def showAll (c : Console) (d : Disk) : List Command → List (List Notice)
  | [] => []
  | command :: rest =>
    let (turn, d) := (c.execute command).run d
    turn.notices :: turn.console.showAll d rest

/-- **Playing on cannot tell such consoles apart.** -/
theorem playAll_alike {commands : List Command}
    (hcommands : ∀ command ∈ commands, command.plays = true) :
    ∀ {c c' : Console}, c.Alike c' → ∀ d d' : Disk,
      c'.showAll d' commands = c.showAll d commands
        ∧ (c.executeAll d commands).1.Alike (c'.executeAll d' commands).1 := by
  -- on the commands; each leaves consoles that the next cannot tell apart
  induction commands with
  | nil => exact fun h _ _ => ⟨rfl, h⟩
  | cons command rest ih =>
      intro c c' h d d'
      rw [List.forall_mem_cons] at hcommands
      obtain ⟨hnotices, hconsole⟩ := execute_alike h hcommands.1 d d'
      obtain ⟨hshown, hleft⟩ := ih hcommands.2 hconsole ((c.execute command).run d).2
        ((c'.execute command).run d').2
      exact ⟨congrArg₂ (· :: ·) hnotices hshown, hleft⟩

/-! ## §3. What any command leaves settled. -/

/-- A console of this game that has settled on targets of replacements only. -/
structure Settled (m : GameMap) (ctx : Context) (c : Console) : Prop where
  map : c.map = m
  context : c.context = ctx
  settled : m.WellSettled c.settled

/-- **Any command keeps what is settled to targets of replacements.** -/
theorem settled_execute {m : GameMap} {ctx : Context} (c : Console) (d : Disk) (command : Command)
    (h : c.Settled m ctx) : ((c.execute command).run d).1.console.Settled m ctx := by
  obtain ⟨rfl, rfl, hsettled⟩ := h
  -- a walk begins with what is settled, and its visits settle replacements only
  have walked {result : Except ChainError Outcome} {session : Session} {s s' : Scene}
      {visits : List Visit} (hs : s.settled = c.settled) (h : Leads c.context c.map s visits s') :
      (c.finish result session s').console.Settled c.map c.context :=
    ⟨rfl, rfl, h.wellSettled (hs ▸ hsettled)⟩
  cases command with
  | interact interaction x y =>
      show (c.interact interaction x y).console.Settled c.map c.context
      unfold interact
      cases c.pending with
      | some w => exact ⟨rfl, rfl, hsettled⟩
      | none => exact walked rfl (c.session.leads_onTile c.context c.map x y interaction.trigger _)
  | character event x y =>
      show (c.talk event x y).console.Settled c.map c.context
      unfold talk
      cases c.pending with
      | some w => exact ⟨rfl, rfl, hsettled⟩
      | none => exact walked rfl (c.session.leads_onCharacter c.context c.map event x y _ c.scene)
  | respond a =>
      show (c.respond a).console.Settled c.map c.context
      unfold respond
      cases c.pending with
      | none => exact ⟨rfl, rfl, hsettled⟩
      | some w =>
          have hleads := leads_resume c.context c.map w a c.scene
          dsimp only
          split
          · next heq =>
              rw [heq] at hleads
              exact ⟨rfl, rfl, hleads.wellSettled hsettled⟩
          · next heq =>
              rw [heq] at hleads
              exact walked rfl hleads
  | save path =>
      show (c.afterWrite _ (d.store _ _).1).console.Settled c.map c.context
      cases (d.store (c.targetPath path) c.save.write).1 <;> exact ⟨rfl, rfl, hsettled⟩
  | load path =>
      show (c.afterLoad _ (Savegame.load _ _)).console.Settled c.map c.context
      cases Savegame.load (c.targetPath path) (d.read (c.targetPath path)) <;>
        exact ⟨rfl, rfl, hsettled⟩
  | _ => exact ⟨rfl, rfl, hsettled⟩

/-- **A console with a past**: what commands made of a new console of this game. -/
def Reached (m : GameMap) (ctx : Context) (c : Console) (d : Disk) : Prop :=
  ∃ save dice path disk history,
    (Console.fresh m save ctx dice path).executeAll disk history = (c, d)

/-- A console with a past has settled on targets of replacements only. -/
theorem Reached.settled {m : GameMap} {ctx : Context} {c : Console} {d : Disk}
    (h : c.Reached m ctx d) : c.Settled m ctx := by
  obtain ⟨save, dice, path, disk, history, h⟩ := h
  have hfresh : (fresh m save ctx dice path).Settled m ctx := ⟨rfl, rfl, List.forall_mem_nil _⟩
  have hrun := executeAll_keeps settled_execute hfresh disk history
  rw [h] at hrun
  exact hrun

end Console

/-! ## §4. What is settled on without an open field. -/

/-- Without an open field it does not matter where a walk comes from. -/
theorem Origin.aim_of_closed (origin : Origin) {raw : TileTarget} (h : raw.isOpen = false) :
    origin.aim raw = raw := by
  unfold TileTarget.isOpen at h
  simp only [Bool.or_eq_false_iff, beq_eq_false_iff_ne, ne_eq] at h
  obtain ⟨⟨hmap, hx⟩, hy⟩ := h
  simp [Origin.aim, Origin.mapOr, hmap, hx, hy]

/-- No two nodes of a map that was built have the same name. -/
theorem MapDefinition.id_injective {d : MapDefinition} {m : GameMap} (h : d.build = .ok m)
    {n n' : Node} (hn : n ∈ m.nodes) (hn' : n' ∈ m.nodes) (hid : n'.id = n.id) : n' = n := by
  -- a node knows its position
  have hposition {n : Node} (hn : n ∈ m.nodes) : m.nodes[n.id.index.toNat]? = some n := by
    obtain ⟨i, hi, heq⟩ := Array.getElem_of_mem hn
    have hsome : m.nodes[i]? = some n := Array.getElem?_eq_some_iff.2 ⟨hi, heq⟩
    obtain ⟨d', _, hbuild⟩ := node_of_build h hsome
    rw [(NodeDefinition.build_eq_ok hbuild).1]
    exact hsome
  have hsame := hposition hn'
  rw [hid, hposition hn] at hsame
  exact (Option.some.inj hsame).symm

/-- **A replacement without an open field aims at its own tile.** -/
theorem Console.Settled.aimOf {d : MapDefinition} {m : GameMap} (hm : d.build = .ok m)
    {ctx : Context} {c : Console} (h : c.Settled m ctx) {n : Node} {r : TileReplacement}
    (hn : n ∈ m.nodes) (hr : n.payload = .changeTile r) (hclosed : r.target.isOpen = false)
    (origin : Origin) : c.scene.aimOf n.id origin r.target = r.target := by
  unfold Scene.aimOf Scene.settledTarget?
  cases hfind : c.scene.settled.find? fun entry => entry.1 == n.id with
  | none => exact origin.aim_of_closed hclosed
  | some entry =>
      -- what stands under the name of a node is what this node has settled on
      obtain ⟨n', hn', r', origin', hid, hr', hentry⟩ :=
        h.settled entry (List.mem_of_find?_eq_some hfind)
      have hname := List.find?_some hfind
      rw [beq_iff_eq] at hname
      have heq : n' = n := MapDefinition.id_injective hm hn hn' (hid.trans hname)
      rw [heq, hr] at hr'
      injection hr' with hr'
      show entry.2 = r.target
      rw [hentry, ← hr', origin'.aim_of_closed hclosed]

/-! ## §5. Loading. -/

namespace Console

/-- A console that loads a savegame goes on with it. -/
theorem load_console (c : Console) {d : Disk} {path : Option String} {text : String}
    {loaded : Savegame} (hfile : d.read (c.targetPath path) = .ok text)
    (hload : Savegame.read? text = some loaded) :
    ((c.execute (.load path)).run d).1.console = c.restore loaded := by
  show (c.afterLoad _ (Savegame.load _ (d.read (c.targetPath path)))).console = _
  simp only [hfile, Savegame.load, loadDocument, hload]
  rfl

/-- What has to be equal at two consoles besides what a savegame replaces. -/
structure Matches (m : GameMap) (c c' : Console) : Prop where
  dice : c'.dice = c.dice
  tick : c'.tick = c.tick
  /-- A character was talked to in this tick at both or at neither. -/
  characterBusy : c'.session.characterBusy = c.session.characterBusy
  /-- Replacements with an open field have settled alike. -/
  openTargets : ∀ n ∈ m.nodes, ∀ r, n.payload = .changeTile r → r.target.isOpen = true →
    c'.scene.settledTarget? n.id = c.scene.settledTarget? n.id

/-- **With the same savegame such consoles cannot be told apart.** -/
theorem restore_alike {d : MapDefinition} {m : GameMap} (hm : d.build = .ok m) {ctx : Context}
    {c c' : Console} (h : c.Settled m ctx) (h' : c'.Settled m ctx) (hmatches : c.Matches m c')
    (loaded : Savegame) : (c.restore loaded).Alike (c'.restore loaded) where
  map := h'.map.trans h.map.symm
  save := rfl
  context := h'.context.trans h.context.symm
  session := congrArg (Session.mk .fresh) hmatches.characterBusy
  dice := hmatches.dice
  pending := rfl
  tick := hmatches.tick
  aims := by
    intro n hn r hr origin
    rw [show (c.restore loaded).map = m from h.map] at hn
    cases hopen : r.target.isOpen with
    | true =>
        show (c.scene.settledTarget? n.id).getD _ = (c'.scene.settledTarget? n.id).getD _
        rw [hmatches.openTargets n hn r hr hopen]
    | false => exact (h.aimOf hm hn hr hopen origin).trans (h'.aimOf hm hn hr hopen origin).symm

/-- **Loading a savegame forgets the play before it**, but for the character of the tick and the open
targets that have settled.  Suppose that two consoles were made with the same map, built from a
definition, and the same settings, dictionary and host, and that whatever was commanded since they
have come to the same dice and the same tick; that a character was talked to in this tick at both or
at neither; and that every tile replacement with an open field has settled on the same tile at both
or at neither.  If both load a file with the same text, which is that of a savegame, then each of any
later commands that play on shows the same at both, and they come to the same savegame and the same
suspension. -/
theorem loading_forgets {d : MapDefinition} {m : GameMap} (hm : d.build = .ok m) (ctx : Context)
    (c c' : Console) (disk disk' : Disk) (hc : c.Reached m ctx disk) (hc' : c'.Reached m ctx disk')
    (hmatches : c.Matches m c') (path path' : Option String) (text : String) (loaded : Savegame)
    (hfile : disk.read (c.targetPath path) = .ok text)
    (hfile' : disk'.read (c'.targetPath path') = .ok text)
    (hload : Savegame.read? text = some loaded) (commands : List Command)
    (hcommands : ∀ command ∈ commands, command.plays = true) :
    let turn := ((c.execute (.load path)).run disk).1
    let turn' := ((c'.execute (.load path')).run disk').1
    turn'.console.showAll disk' commands = turn.console.showAll disk commands
      ∧ (turn'.console.executeAll disk' commands).1.save
        = (turn.console.executeAll disk commands).1.save
      ∧ (turn'.console.executeAll disk' commands).1.pending
        = (turn.console.executeAll disk commands).1.pending := by
  intro turn turn'
  have hturn : turn.console = c.restore loaded := c.load_console hfile hload
  have hturn' : turn'.console = c'.restore loaded := c'.load_console hfile' hload
  rw [hturn, hturn']
  obtain ⟨hshown, hleft⟩ := playAll_alike hcommands
    (restore_alike hm hc.settled hc'.settled hmatches loaded) disk disk'
  exact ⟨hshown, hleft.save, hleft.pending⟩

/-! ## §6. A map with an open target. -/

/-- A map with one chain, which replaces the tile it is walked from. -/
def pavingDefinition : MapDefinition where
  index := 1
  name := ""
  is3d := false
  width := 1
  height := 1
  battleBackground := 0
  nodes := [⟨10, 65535, .changeTile 0 0 0 7⟩]
  chainHeads := [0]
  tiles := []
  texts := []

/-- The map of this definition. -/
def pavingMap : GameMap := .ofNodes [⟨⟨0⟩, .changeTile, none, .changeTile ⟨⟨0, 0, 0⟩, 7⟩⟩] [⟨0⟩]

/-- A disk with the savegame of a game not yet begun. -/
def pavingDisk : Disk := ⟨[(["s"], .file Savegame.blank.write)]⟩

/-- A new console at this map after these commands, and its disk. -/
def paving (history : List Command) : Console × Disk :=
  (fresh pavingMap .blank (.plain []) (.ofScript []) "s").executeAll pavingDisk history

/-- The tiles that are replaced in the savegame once such a console has loaded that of its disk and
executed one more command. -/
def repaved (history : List Command) (command : Command) : List TileChange :=
  let turn := (((paving history).1.execute (.load none)).run pavingDisk).1
  (turn.console.executeAll pavingDisk [command]).1.save.tileChanges

theorem pavingDisk_read : pavingDisk.read "s" = .ok Savegame.blank.write := by
  cbv

theorem repaved_eq (history : List Command) (command : Command)
    (hpath : (paving history).1.savePath = "s") :
    repaved history command
      = (((paving history).1.restore .blank).executeAll pavingDisk [command]).1.save.tileChanges := by
  have hfile : pavingDisk.read ((paving history).1.targetPath none) = .ok Savegame.blank.write := by
    rw [targetPath, Option.getD_none, hpath, pavingDisk_read]
  unfold repaved
  dsimp only
  rw [load_console _ hfile Savegame.blank.read?_write]

/-- Two consoles that have paved a tile, one of them after a look around, load the savegame: whoever
is talked to next repaves that tile at both. -/
theorem loading_forgets_paving :
    let history : List Command := [.character 1 0 0, .endTick]
    let history' : List Command := [.interact .look 0 0, .character 1 0 0, .resetGuard, .endTick]
    let turn := (((paving history).1.execute (.load none)).run pavingDisk).1
    let turn' := (((paving history').1.execute (.load none)).run pavingDisk).1
    turn'.console.showAll pavingDisk [.character 1 4 4]
        = turn.console.showAll pavingDisk [.character 1 4 4]
      ∧ repaved history (.character 1 4 4) = [⟨⟨1, 1, 1⟩, 7⟩] := by
  intro history history' turn turn'
  have hc : (paving history).1.Reached pavingMap (.plain []) pavingDisk :=
    ⟨_, _, _, _, history, rfl⟩
  have hc' : (paving history').1.Reached pavingMap (.plain []) pavingDisk :=
    ⟨_, _, _, _, history', rfl⟩
  have hmatches : (paving history).1.Matches pavingMap (paving history').1 := by
    refine ⟨rfl, rfl, rfl, ?_⟩
    intro n hn r hr hopen
    rw [List.mem_singleton.1 (Array.mem_toList_iff.2 hn)]
    rfl
  have hforgets := loading_forgets (d := pavingDefinition) rfl (.plain []) _ _ _ _ hc hc' hmatches
    none none _ .blank pavingDisk_read pavingDisk_read Savegame.blank.read?_write
    [.character 1 4 4] (by decide)
  refine ⟨hforgets.1, ?_⟩
  rw [repaved_eq history _ rfl]
  decide +kernel

/-- **The tick and the open targets outlive a load.**  The same savegame is loaded after histories
that left the dice and the tick the same.  A character who was talked to in this tick keeps silent,
and a target that has settled stays where it was. -/
theorem loading_keeps_tick_and_targets :
    (paving [.character 1 0 0]).1.dice = (paving []).1.dice
      ∧ (paving [.character 1 0 0]).1.tick = (paving []).1.tick
      ∧ repaved [.character 1 0 0] (.character 1 0 0) = []
      ∧ repaved [] (.character 1 0 0) = [⟨⟨1, 1, 1⟩, 7⟩]
      ∧ (paving [.character 1 0 0, .endTick]).1.dice = (paving [.endTick]).1.dice
      ∧ (paving [.character 1 0 0, .endTick]).1.tick = (paving [.endTick]).1.tick
      ∧ repaved [.character 1 0 0, .endTick] (.character 1 4 4) = [⟨⟨1, 1, 1⟩, 7⟩]
      ∧ repaved [.endTick] (.character 1 4 4) = [⟨⟨1, 5, 5⟩, 7⟩] := by
  refine ⟨rfl, rfl, ?_, ?_, rfl, rfl, ?_, ?_⟩
  · rw [repaved_eq _ _ rfl]
    decide +kernel
  · rw [repaved_eq _ _ rfl]
    decide +kernel
  · rw [repaved_eq _ _ rfl]
    decide +kernel
  · rw [repaved_eq _ _ rfl]
    decide +kernel

end Console

end TileEvents
