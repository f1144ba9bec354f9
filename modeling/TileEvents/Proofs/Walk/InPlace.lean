/-
  TileEvents.Proofs.Walk.InPlace
  ──────────────────────────────
  **A NODE IS ALL OR NOTHING.**

  A step hands back a new scene, so that one that fails can simply hand back
  the old one.  A program that writes in place has no such way out: what it
  wrote before it failed stays written.  This module runs nodes and chains as
  programs in place, with the checks and the writes of every kind of node in
  the order in which they are made, and finds that nothing has to be undone:

    • `Node.execute_eq_step`        — a node that runs in place does what its
                                      step does, when it fails as well;
    • `runChain_eq_walkFrom`        — so does a chain, by induction on the
                                      nodes it may still visit;
    • `walkFrom_corrupt`            — a walk ends in corrupt data exactly where
                                      a node that is handed over to fails;
    • `failing_node_writes_nothing` — the three put together: what such a walk
                                      leaves is what the nodes before left.
-/
import TileEvents.Proofs.Walk.Limit

namespace TileEvents

/-! ## §1. Programs that write in place. -/

/-- What a node works on: the cursor and the scene. -/
structure Bench where
  cursor : Cursor
  scene : Scene

/-- **A program that writes in place.**  What it has written by the time it fails stays written. -/
abbrev InPlace := ExceptT ChainError (StateM Bench)

namespace InPlace

/-- What comes of a program and the bench it leaves, also after a failure. -/
def on {α : Type} (x : InPlace α) (b : Bench) : Except ChainError α × Bench := StateT.run x b

/-- What comes of a program and the scene it leaves. -/
def ends {α : Type} (x : InPlace α) (b : Bench) : Except ChainError α × Scene :=
  ((x.on b).1, (x.on b).2.scene)

/-- The scene as it is now. -/
def scene : InPlace Scene := return (← get).scene

/-- The trigger the node sees. -/
def trigger : InPlace Trigger := return (← get).cursor.trigger

/-- How the last branching went. -/
def status : InPlace Bool := return (← get).cursor.status

/-- Work on the scene for a value. -/
def work {α : Type} (f : Scene → α × Scene) : InPlace α :=
  modifyGet fun b => ((f b.scene).1, { b with scene := (f b.scene).2 })

/-- Change the scene. -/
def change (f : Scene → Scene) : InPlace Unit := modify fun b => { b with scene := f b.scene }

/-- Change the savegame. -/
def write (f : Savegame → Savegame) : InPlace Unit := change fun s => s.setSave (f s.save)

/-- Ask the host for something. -/
def ask (c : HostCall) : InPlace Unit := change (·.call c)

/-- Change the cursor. -/
def turn (f : Cursor → Cursor) : InPlace Unit := modify fun b => { b with cursor := f b.cursor }

end InPlace

open InPlace Text

/-! ## §2. Nodes in place. -/

/-- An action on a flag: the flag is read, changed and written back. -/
def Action.turnFlag (a : Action) (id : NodeId) (what : String) (read : Savegame → Bool)
    (store : Savegame → Bool → Savegame) : InPlace Unit := do
  let on := flagAfter a.value (read (← scene).save)
  write fun save => store save on
  change (·.remark id s!"{what} = {inspectBool on}")

/-- **An action in place.**  The facing and the ailment are looked up before anything is written. -/
def Action.carryOut (a : Action) (settings : Settings) (id : NodeId) : InPlace Unit := do
  match a.kind with
  | .setGlobalVariable =>
    a.turnFlag id s!"global variable {a.object}" (·.globalVariable a.object)
      (·.setGlobalVariable a.object)
  | .setEventBit =>
    let address := BitAddress.event a.object
    a.turnFlag id s!"event bit {address.map}:{address.bit}" (·.eventBit address)
      (·.setEventBit address)
  | .setCharacterBit =>
    let address := BitAddress.character a.object
    a.turnFlag id s!"character bit {address.map}:{address.bit}" (·.characterBit address)
      (·.setCharacterBit address)
  | .lockDoor =>
    a.turnFlag id s!"door {a.object} locked" (·.isDoorLocked a.object) (·.setDoorLocked a.object)
  | .lockChest =>
    a.turnFlag id s!"chest {a.object} locked" (·.isChestLocked a.object) (·.setChestLocked a.object)
  | .setGameOption =>
    a.turnFlag id s!"game option {a.object}" (·.gameOption a.object) (·.setGameOption a.object)
  | .addKeyword =>
    write (·.addWord a.object)
    change (·.remark id s!"learned word {a.object}")
  | .setDirection =>
    let some direction := Direction.all[a.object.toNat]?
      | throw (.corruptData id (.noDirection a.object))
    write ({ · with direction := direction })
    change (·.remark id s!"facing {direction.inspect}")
  | .addAilment =>
    let some ailment := Ailment.ofIndex? a.object
      | throw (.corruptData id (.noAilment a.object))
    change (a.applyAilment id ailment)
  | .addItem => change (a.applyItem id)
  | .addGold => change (a.applyCurrency settings id .gold)
  | .addFood => change (a.applyCurrency settings id .food)

/-- The way on from a decided condition, in place. -/
def Condition.take (c : Condition) (id : NodeId) (next : Option NodeId) : InPlace Directive := do
  match c.verdict (← scene).save (← trigger) (← status) with
  | .decided matched =>
    change (·.remark id s!"{c.kind.inspect} matched = {inspectBool matched}")
    if matched then
      turn fun _ => ⟨.always, true⟩
      return .goto next
    else
      turn ({ · with status := false })
      return .otherwise c.alternate
  | .awaitWord => return .await .sayWord
  | .awaitNumber => return .await .enterNumber
  | .wrongTrigger => return .reject

/-- A tile replacement in place. -/
def TileReplacement.carryOut (r : TileReplacement) (id : NodeId) (origin : Origin) :
    InPlace Unit := do
  let target ← work (·.settle id origin r.target)
  change (·.note .info
    s!"recording tile change at map {target.map} ({target.x}, {target.y}) -> tile {r.tile}")
  write (·.recordTileChange target r.tile)
  ask (.updateTile target r.tile)
  if let some event := origin.event then
    write (·.setEventBit (.tileEvent origin.map event) true)

/-- **The kinds of node in place.** -/
def Node.carryOut (ctx : Context) (m : GameMap) (origin : Origin) (n : Node) : InPlace Directive := do
  let id := n.id
  match n.payload with
  | .teleport target x y direction transition =>
    match ← trigger with
    | .move | .always =>
      ask (.teleport (origin.mapOr target) x y direction transition)
      return .goto none
    | _ => return .goto n.next
  | .door d =>
    if (← scene).save.isDoorLocked d.door then
      return .await (.door d.door d.key d.lockpickReduction d.unlockText)
    else
      turn ({ · with status := true })
      return .goto n.next
  | .chest c =>
    if (← trigger) = .mouth then return .reject
    let found ← if c.searchCheck then work (·.search ctx.settings) else pure true
    if found then
      let locked := (← scene).save.isChestLocked c.chest
      return .await (.chest c.chest c.key c.lockpickReduction locked c.text)
    else
      change (·.tell ctx.settings.messages.searchFailed)
      return .reject
  | .popupText text image byMoving byCursor =>
    let accepted :=
      match ← trigger with
      | .always => true
      | .move => byMoving
      | .eye => byCursor
      | _ => false
    return if accepted then .await (.popup text image) else .reject
  | .spinner direction =>
    match ← trigger with
    | .move | .always =>
      let facing ← work (·.spinTo direction)
      write ({ · with direction := facing })
      ask (.spin facing)
      return .goto n.next
    | .eye =>
      change (·.tell ctx.settings.messages.spinnerSeen)
      return .reject
    | _ => return .goto n.next
  | .trap t =>
    match ← trigger with
    | .move | .always => return .await (.trap (← work (t.spring id)))
    | .eye =>
      change (·.tell ctx.settings.messages.trapSeen)
      return .reject
    | _ => return .reject
  | .removeBuffs buff =>
    let cleared := (← scene).save.buffsRemoved buff
    write (·.removeBuffs buff)
    change (·.remark id s!"cleared {cleared} buff(s)")
    return .goto n.next
  | .riddlemouth riddleText solutionText _ =>
    match ← trigger with
    | .always | .eye | .hand | .mouth => return .await (.riddle riddleText solutionText)
    | _ => return .goto n.next
  | .award a =>
    change (a.apply id)
    return .goto n.next
  | .changeTile r =>
    r.carryOut id origin
    return .goto n.next
  | .startBattle monsterGroup => return .await (.battle monsterGroup m.battleBackground)
  | .enterPlace p =>
    if p.isOpenAt (← scene).save.hour then
      ask (.enterPlace p.kind p.place p.usedMap ctx.admits)
      if ctx.admits then return .goto none
      change (·.tell ctx.settings.messages.placeRefused)
      return .reject
    else
      ask (.message (.mapText p.closedText))
      return .reject
  | .condition c => c.take id n.next
  | .action a =>
    a.carryOut ctx.settings id
    return .goto n.next
  | .diceRoll chance alternate =>
    let roll ← work (·.throwPercentile)
    let won := decide (roll < chance.toUInt32)
    turn ({ · with status := won })
    change (·.remark id s!"rolled {roll} against {chance}%")
    return if won then .goto n.next else .otherwise alternate
  | .conversation kind =>
    return if (← trigger) = .mouth ∧ kind = .talk then .await .conversation else .reject
  | .decision text _ => return .await (.decision text)
  | .changeMusic song volume =>
    ask (.playMusic song volume)
    return .goto n.next
  | .spawn target x y travelType =>
    ask (.spawn (origin.mapOr target) x y travelType)
    return .goto n.next
  | .unknown bytes =>
    change (·.warnOf id
      s!"unknown event type {n.declared.code} ({bytes.length} payload bytes), passing through")
    return .goto n.next

/-- **A node in place.** -/
def Node.execute (ctx : Context) (m : GameMap) (origin : Origin) (n : Node) : InPlace Directive := do
  if !n.isConsistent then throw (.corruptData n.id (.mismatch n.declared n.payload.type?))
  let trigger ← trigger
  change (·.remark n.id s!"{n.declared.inspect} ({trigger.name})")
  let directive ← n.carryOut ctx m origin
  if directive = .reject then change (·.remark n.id "interaction rejected")
  return directive

/-- Look a node up and run it in place. -/
def runNode (ctx : Context) (m : GameMap) (origin : Origin) (id : NodeId) : InPlace Directive := do
  match m.node id with
  | .error e => throw e
  | .ok n => n.execute ctx m origin

/-- Run on in place from node `id`, with `left` nodes still allowed. -/
def runFrom (ctx : Context) (m : GameMap) (origin : Origin) (start : NodeId) (limit : Nat) :
    Nat → NodeId → InPlace Outcome
  | 0, _ => throw (.chainLimitExceeded start limit)
  | left + 1, id => do
    match ← runNode ctx m origin id with
    | .reject => return .aborted
    | .await prompt =>
      change (·.note .debug s!"chain suspended at node {id.text}: {prompt.inspect}")
      return .suspended ⟨prompt, origin, id, ← status⟩
    | .goto none => return .completed (← status)
    | .goto (some next) => runFrom ctx m origin start limit left next

/-- **A chain in place.** -/
def runChain (ctx : Context) (m : GameMap) (origin : Origin) (start : NodeId) : InPlace Outcome := do
  let trigger ← trigger
  change (·.note .info
    s!"walking chain from node {start.text} on map {m.index} ({trigger.name})")
  let limit := ctx.settings.maxChainSteps
  runFrom ctx m origin start limit limit start

/-! ## §3. What runs in place does what the steps do. -/

namespace InPlace

variable {α β : Type}

@[simp] theorem on_bind (x : InPlace α) (f : α → InPlace β) (b : Bench) :
    (x >>= f).on b =
      match x.on b with
      | (.ok a, b') => (f a).on b'
      | (.error e, b') => (.error e, b') := by
  show (match x.on b with | (r, b') => StateT.run (ExceptT.bindCont f r) b') = _
  match x.on b with
  | (.ok a, b') => rfl
  | (.error e, b') => rfl

@[simp] theorem on_pure (a : α) (b : Bench) : (pure a : InPlace α).on b = (.ok a, b) := rfl

@[simp] theorem on_scene (b : Bench) : scene.on b = (.ok b.scene, b) := rfl

@[simp] theorem on_trigger (b : Bench) : trigger.on b = (.ok b.cursor.trigger, b) := rfl

@[simp] theorem on_status (b : Bench) : status.on b = (.ok b.cursor.status, b) := rfl

@[simp] theorem on_work (f : Scene → α × Scene) (b : Bench) :
    (work f).on b = (.ok (f b.scene).1, { b with scene := (f b.scene).2 }) := rfl

@[simp] theorem on_change (f : Scene → Scene) (b : Bench) :
    (change f).on b = (.ok (), { b with scene := f b.scene }) := rfl

@[simp] theorem on_write (f : Savegame → Savegame) (b : Bench) :
    (write f).on b = (.ok (), { b with scene := b.scene.setSave (f b.scene.save) }) := rfl

@[simp] theorem on_ask (c : HostCall) (b : Bench) :
    (ask c).on b = (.ok (), { b with scene := b.scene.call c }) := rfl

@[simp] theorem on_ite (c : Prop) [Decidable c] (x y : InPlace α) (b : Bench) :
    (if c then x else y).on b = if c then x.on b else y.on b := by
  split <;> rfl

end InPlace

/-- An action in place does what it does to a scene, and one that fails does nothing. -/
theorem Action.carryOut_on (a : Action) (settings : Settings) (id : NodeId) (b : Bench) :
    (a.carryOut settings id).on b =
      match a.effect settings id with
      | .error e => (.error e, b)
      | .ok f => (.ok (), { b with scene := f b.scene }) := by
  unfold carryOut effect
  cases a.kind with
  | setDirection => cases Direction.all[a.object.toNat]? <;> rfl
  | addAilment => cases Ailment.ofIndex? a.object <;> rfl
  | _ => rfl

/-- A condition is followed in place as it is by the step. -/
theorem Condition.take_on (c : Condition) (id : NodeId) (next : Option NodeId) (b : Bench) :
    (c.take id next).on b =
      match c.verdict b.scene.save b.cursor.trigger b.cursor.status with
      | .decided matched =>
        (.ok (c.follow matched next b.cursor).1, ⟨(c.follow matched next b.cursor).2,
          b.scene.remark id s!"{c.kind.inspect} matched = {inspectBool matched}"⟩)
      | .awaitWord => (.ok (.await .sayWord), b)
      | .awaitNumber => (.ok (.await .enterNumber), b)
      | .wrongTrigger => (.ok .reject, b) := by
  unfold take
  simp only [on_bind, on_scene, on_trigger, on_status]
  cases hv : c.verdict b.scene.save b.cursor.trigger b.cursor.status with
  | decided matched => cases matched <;> rfl
  | _ => rfl

/-- A kind of node in place. -/
theorem Node.carryOut_on (ctx : Context) (m : GameMap) (origin : Origin) (n : Node) (b : Bench) :
    (n.carryOut ctx m origin).on b =
      match n.perform ctx m origin b.cursor with
      | .error e => (.error e, b)
      | .ok f => (.ok (f b.scene).directive, ⟨(f b.scene).cursor, (f b.scene).scene⟩) := by
  obtain ⟨id, declared, next, payload⟩ := n
  obtain ⟨⟨trigger, status⟩, s⟩ := b
  cases payload with
  | teleport target x y direction transition => cases trigger <;> rfl
  | spinner direction => cases trigger <;> rfl
  | trap t => cases trigger <;> rfl
  | popupText text image byMoving byCursor =>
      cases trigger <;> cases byMoving <;> cases byCursor <;> rfl
  | riddlemouth riddleText solutionText answers => cases trigger <;> rfl
  | conversation kind => cases trigger <;> cases kind <;> rfl
  | door d =>
      simp only [carryOut, perform, on_bind, on_scene, on_ite]
      split <;> rfl
  | chest c =>
      simp only [carryOut, perform, on_bind, on_trigger, on_ite]
      split
      · rfl
      · cases c.searchCheck with
        | false => rfl
        | true =>
            simp only [if_true, on_work, on_scene, on_pure, on_change]
            split <;> rfl
  | condition c =>
      simp only [carryOut, perform, Condition.take_on]
      cases c.verdict s.save trigger status <;> rfl
  | enterPlace p =>
      simp only [carryOut, perform, on_bind, on_scene, on_ite]
      split
      · cases ctx.admits <;> rfl
      · rfl
  | action a =>
      simp only [carryOut, perform, on_bind, Action.carryOut_on]
      cases a.effect ctx.settings id <;> rfl
  | changeTile r =>
      simp only [carryOut, perform, TileReplacement.carryOut, Scene.replaceTile, on_bind, on_work,
        on_change, on_write, on_ask]
      cases origin.event <;> rfl
  | _ => rfl

/-- What a step leaves on the bench: its scene, and the cursor it was given if it fails. -/
def Bench.after (c : Cursor) : Except ChainError (Directive × Cursor) × Scene →
    Except ChainError Directive × Bench
  | (.ok (d, c'), s) => (.ok d, ⟨c', s⟩)
  | (.error e, s) => (.error e, ⟨c, s⟩)

/-- **A node in place does what its step does**, and leaves the same when it fails. -/
theorem Node.execute_eq_step (ctx : Context) (m : GameMap) (origin : Origin) (n : Node) (b : Bench) :
    (n.execute ctx m origin).on b
      = Bench.after b.cursor (n.step ctx m origin b.cursor b.scene) := by
  unfold execute step check
  cases n.isConsistent with
  | false => rfl
  | true =>
      simp only [Bool.not_true, Bool.false_eq_true, if_false, if_true, on_bind, on_pure, on_trigger,
        on_change, on_ite, carryOut_on]
      cases n.perform ctx m origin b.cursor with
      | error e => rfl
      | ok f =>
          dsimp only [Bench.after]
          split <;> rfl

/-- A node is looked up in place as it is by a walk. -/
theorem runNode_on (ctx : Context) (m : GameMap) (origin : Origin) (id : NodeId) (b : Bench) :
    (runNode ctx m origin id).on b =
      match m.node id with
      | .error e => (.error e, b)
      | .ok n => Bench.after b.cursor (n.step ctx m origin b.cursor b.scene) := by
  unfold runNode
  cases m.node id with
  | error e => rfl
  | ok n => exact n.execute_eq_step ctx m origin b

/-- What becomes of a walk after what its node told it in place. -/
def walkAfter (ctx : Context) (m : GameMap) (origin : Origin) (start : NodeId) (limit left : Nat)
    (id : NodeId) : Except ChainError Directive × Bench → Except ChainError Outcome × Scene
  | (.error e, b) => (.error e, b.scene)
  | (.ok .reject, b) => (.ok .aborted, b.scene)
  | (.ok (.await prompt), b) =>
    (.ok (.suspended ⟨prompt, origin, id, b.cursor.status⟩),
      b.scene.note .debug s!"chain suspended at node {id.text}: {prompt.inspect}")
  | (.ok (.goto none), b) => (.ok (.completed b.cursor.status), b.scene)
  | (.ok (.goto (some next)), b) =>
    walkFrom ctx m origin start limit left next b.cursor b.scene

/-- A walk goes on by what its node told it in place. -/
theorem walkFrom_succ (ctx : Context) (m : GameMap) (origin : Origin) (start : NodeId)
    (limit left : Nat) (id : NodeId) (c : Cursor) (s : Scene) :
    walkFrom ctx m origin start limit (left + 1) id c s
      = walkAfter ctx m origin start limit left id ((runNode ctx m origin id).on ⟨c, s⟩) := by
  rw [runNode_on, walkFrom]
  cases m.node id with
  | error e => rfl
  | ok n =>
      dsimp only
      obtain ⟨result, s'⟩ := n.step ctx m origin c s
      cases result with
      | error e => rfl
      | ok told =>
          obtain ⟨directive, c'⟩ := told
          cases directive with
          | goto next => cases next <;> rfl
          | _ => rfl

/-- **Running on in place is walking on.** -/
theorem runFrom_eq_walkFrom (ctx : Context) (m : GameMap) (origin : Origin) (start : NodeId)
    (limit : Nat) : ∀ (left : Nat) (id : NodeId) (b : Bench),
      (runFrom ctx m origin start limit left id).ends b
        = walkFrom ctx m origin start limit left id b.cursor b.scene := by
  -- on the nodes that may still be visited
  intro left
  induction left with
  | zero => intro id b; rfl
  | succ left ih =>
      intro id b
      rw [walkFrom_succ, ends, runFrom, on_bind]
      obtain ⟨result, b'⟩ := (runNode ctx m origin id).on b
      match result with
      | .error e => rfl
      | .ok .reject => rfl
      | .ok (.await prompt) => rfl
      | .ok (.goto none) => rfl
      | .ok (.goto (some next)) => exact ih next b'

/-- **A chain in place is a walk.** -/
theorem runChain_eq_walk (ctx : Context) (m : GameMap) (origin : Origin) (start : NodeId)
    (trigger : Trigger) (status : Bool) (s : Scene) :
    (runChain ctx m origin start).ends ⟨⟨trigger, status⟩, s⟩
      = walk ctx m origin start trigger status s :=
  runFrom_eq_walkFrom ctx m origin start _ _ start _

/-! ## §4. Nodes that fail. -/

/-- **The walk fails where it stands**: the node it comes to next cannot be looked up or run. -/
def Standing.Fails (ctx : Context) (m : GameMap) (origin : Origin) (q : Standing) (e : ChainError) :
    Prop :=
  ((runNode ctx m origin q.node).on ⟨q.cursor, q.scene⟩).1 = .error e

section Walks

variable {ctx : Context} {m : GameMap} {origin : Origin}

/-- **A node that fails in place has written nothing but log.** -/
theorem Node.execute_error {n : Node} {b : Bench} {e : ChainError}
    (h : ((n.execute ctx m origin).on b).1 = .error e) :
    ((n.execute ctx m origin).on b).2.cursor = b.cursor
      ∧ ((n.execute ctx m origin).on b).2.scene.unlogged = b.scene.unlogged := by
  rw [execute_eq_step] at h ⊢
  cases hstep : n.step ctx m origin b.cursor b.scene with
  | mk result s' =>
      rw [hstep] at h
      match result, hstep with
      | .ok _, _ => cases h
      | .error _, hstep => exact ⟨rfl, step_error_unlogged hstep⟩

/-- Nor has anything been written where no node is found. -/
theorem runNode_error {id : NodeId} {b : Bench} {e : ChainError}
    (h : ((runNode ctx m origin id).on b).1 = .error e) :
    ((runNode ctx m origin id).on b).2.scene.unlogged = b.scene.unlogged := by
  unfold runNode at h ⊢
  cases hn : m.node id with
  | error e' => rfl
  | ok n =>
      simp only [hn] at h ⊢
      exact (Node.execute_error h).2

/-- A node that runs in place is one of the table, and takes a step. -/
theorem runNode_ok {id : NodeId} {b b' : Bench} {d : Directive}
    (h : (runNode ctx m origin id).on b = (.ok d, b')) :
    ∃ n, m.node id = .ok n
      ∧ n.step ctx m origin b.cursor b.scene = (.ok (d, b'.cursor), b'.scene) := by
  rw [runNode_on] at h
  cases hn : m.node id with
  | error e => simp [hn] at h
  | ok n =>
      refine ⟨n, rfl, ?_⟩
      simp only [hn] at h
      cases hstep : n.step ctx m origin b.cursor b.scene with
      | mk result s' =>
          rw [hstep] at h
          match result with
          | .error e => cases h
          | .ok (d', c') => cases h; rfl

/-- A walk whose nodes hand over, within the limit, to one that fails ends there, with the scene
that it had. -/
theorem walkFrom_fails {ids : List NodeId} {p q : Standing} {e : ChainError}
    (hids : HandsOver ctx m origin ids p q) (hfails : q.Fails ctx m origin e) {start : NodeId}
    {limit left : Nat} (hlength : ids.length < left) :
    let r := walkFrom ctx m origin start limit left p.node p.cursor p.scene
    r.1 = .error e ∧ r.2.unlogged = q.scene.unlogged := by
  obtain ⟨rest, rfl⟩ : ∃ rest, left = ids.length + (rest + 1) := ⟨left - ids.length - 1, by omega⟩
  unfold Standing.Fails at hfails
  have hscene := runNode_error hfails
  rw [walkFrom_handsOver hids, walkFrom_succ]
  cases hrun : (runNode ctx m origin q.node).on ⟨q.cursor, q.scene⟩ with
  | mk result b =>
      rw [hrun] at hfails hscene
      cases hfails
      exact ⟨rfl, hscene⟩

/-- **A walk that ended in corrupt data failed where it stood**, after nodes that all handed over. -/
theorem walkFrom_corrupt {start id : NodeId} {limit : Nat} {fault : Fault} :
    ∀ {left : Nat} {p : Standing},
      (walkFrom ctx m origin start limit left p.node p.cursor p.scene).1
          = .error (.corruptData id fault) →
      ∃ ids q, ids.length < left ∧ HandsOver ctx m origin ids p q
        ∧ q.Fails ctx m origin (.corruptData id fault) := by
  intro left
  induction left with
  | zero => intro p h; cases h
  | succ left ih =>
      intro p h
      rw [walkFrom_succ] at h
      cases hrun : (runNode ctx m origin p.node).on ⟨p.cursor, p.scene⟩ with
      | mk result b =>
          rw [hrun] at h
          match result, hrun with
          | .error e, hrun =>
              cases h
              exact ⟨[], p, Nat.succ_pos left, .none p, by rw [Standing.Fails, hrun]⟩
          | .ok .reject, _ => cases h
          | .ok (.await prompt), _ => cases h
          | .ok (.goto none), _ => cases h
          | .ok (.goto (some next)), hrun =>
              obtain ⟨n, hn, hstep⟩ := runNode_ok hrun
              obtain ⟨ids, q, hlength, hids, hfails⟩ := ih (p := ⟨next, b.cursor, b.scene⟩) h
              exact ⟨p.node :: ids, q, Nat.succ_lt_succ hlength, .node hn hstep hids, hfails⟩

/-- **A walk ends in corrupt data exactly where it fails**, and leaves what the nodes before left. -/
theorem walk_corrupt {start : NodeId} {trigger : Trigger} {status : Bool} {s : Scene} {id : NodeId}
    {fault : Fault} :
    (walk ctx m origin start trigger status s).1 = .error (.corruptData id fault)
      ↔ ∃ ids q, ids.length < ctx.settings.maxChainSteps
          ∧ HandsOver ctx m origin ids (m.standingAt start trigger status s) q
          ∧ q.Fails ctx m origin (.corruptData id fault)
          ∧ (walk ctx m origin start trigger status s).2.unlogged = q.scene.unlogged := by
  constructor
  · intro h
    obtain ⟨ids, q, hlength, hids, hfails⟩ :=
      walkFrom_corrupt (p := m.standingAt start trigger status s) h
    exact ⟨ids, q, hlength, hids, hfails, (walkFrom_fails hids hfails hlength).2⟩
  · rintro ⟨ids, q, hlength, hids, hfails, -⟩
    exact (walkFrom_fails hids hfails hlength).1

end Walks

/-- **A node is all or nothing, though nothing is undone.**  A node that runs in place does what
its step does, and one that fails leaves the cursor as it was and, but for the log, the scene.  So a
chain that runs in place ends in corrupt data exactly if the nodes it visits hand over, within the
limit, to one that fails, and what it leaves is what those nodes left. -/
theorem failing_node_writes_nothing (ctx : Context) (m : GameMap) (origin : Origin) :
    (∀ (n : Node) (b : Bench),
      (n.execute ctx m origin).on b = Bench.after b.cursor (n.step ctx m origin b.cursor b.scene)
        ∧ ∀ e, ((n.execute ctx m origin).on b).1 = .error e →
            ((n.execute ctx m origin).on b).2.cursor = b.cursor
              ∧ ((n.execute ctx m origin).on b).2.scene.unlogged = b.scene.unlogged)
      ∧ ∀ (start : NodeId) (trigger : Trigger) (status : Bool) (s : Scene),
        (runChain ctx m origin start).ends ⟨⟨trigger, status⟩, s⟩
            = walk ctx m origin start trigger status s
          ∧ ∀ id fault, (walk ctx m origin start trigger status s).1 = .error (.corruptData id fault)
              ↔ ∃ ids q, ids.length < ctx.settings.maxChainSteps
                  ∧ HandsOver ctx m origin ids (m.standingAt start trigger status s) q
                  ∧ q.Fails ctx m origin (.corruptData id fault)
                  ∧ (walk ctx m origin start trigger status s).2.unlogged = q.scene.unlogged := by
  refine ⟨?_, ?_⟩
  · intro n b
    exact ⟨n.execute_eq_step ctx m origin b, fun e => Node.execute_error⟩
  · intro start trigger status s
    exact ⟨runChain_eq_walk ctx m origin start trigger status s, fun id fault => walk_corrupt⟩

/-- Music is played before the facing 9 is refused: the music stays, and of the facing nothing but
log has been written. -/
theorem failing_node_writes_nothing_music :
    let m := GameMap.ofNodes
      [⟨⟨0⟩, .changeMusic, some ⟨1⟩, .changeMusic 3 50⟩,
        ⟨⟨1⟩, .action, none, .action ⟨.setDirection, 9, 0, 0⟩⟩] [⟨0⟩]
    let r := walk (Context.plain []) m ⟨1, 0, 0, some 1⟩ ⟨0⟩ .move false .blank
    r.1 = .error (.corruptData ⟨1⟩ (.noDirection 9))
      ∧ r.2.unlogged = Scene.blank.call (.playMusic 3 50) := by
  intro m r
  obtain ⟨-, hchain⟩ := failing_node_writes_nothing (Context.plain []) m ⟨1, 0, 0, some 1⟩
  obtain ⟨-, hcorrupt⟩ := hchain ⟨0⟩ .move false .blank
  refine ⟨(hcorrupt ⟨1⟩ (.noDirection 9)).2 ?_, rfl⟩
  exact ⟨[⟨0⟩], _, by decide, .node rfl rfl (.none _), rfl, rfl⟩

end TileEvents
