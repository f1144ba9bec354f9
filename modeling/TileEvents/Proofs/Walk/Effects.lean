/-
  TileEvents.Proofs.Walk.Effects
  ──────────────────────────────
  **WHAT A NODE CAN DO TO A SCENE.**

  Twenty kinds of node come down to seven effects.  A node asks the host for
  something and leaves the savegame alone, turns the party, ends buffs, acts,
  awards, springs a trap or replaces a tile.  What becomes of a part of the
  savegame is decided by these seven, so that no proof about such a part has to
  go through the kinds of node again.

    • `Node.Requests`        — what a node may ask the host for;
    • `Action.Amounts`       — what an action amounts to;
    • `Node.Affects`         — the seven effects;
    • `Node.perform_affects` — every kind of node has one of them;
    • `Node.step_affects`    — and so has a step, but for the log.
-/
import TileEvents.Proofs.Walk.Unlogged

namespace TileEvents

/-! ## §1. Requests. -/

/-- **A request that a node makes of the host** and that changes nothing else. -/
inductive Node.Requests (origin : Origin) (n : Node) : HostCall → Prop where
  | teleport {target : UInt16} {x y : UInt8} {direction : Option Direction} {transition : Transition}
      (h : n.payload = .teleport target x y direction transition) :
      Requests origin n (.teleport (origin.mapOr target) x y direction transition)
  | enterPlace {p : Place} (admitted : Bool) (h : n.payload = .enterPlace p) :
      Requests origin n (.enterPlace p.kind p.place p.usedMap admitted)
  | playMusic {song : UInt16} {volume : UInt8} (h : n.payload = .changeMusic song volume) :
      Requests origin n (.playMusic song volume)
  | spawn {target : UInt16} {x y travelType : UInt8} (h : n.payload = .spawn target x y travelType) :
      Requests origin n (.spawn (origin.mapOr target) x y travelType)
  | message (message : Message) : Requests origin n (.message message)

/-! ## §2. Actions. -/

/-- The kind of action that is about this currency. -/
def Currency.kind : Currency → ActionKind
  | gold => .addGold
  | food => .addFood

/-- **What an action amounts to**: the twelve kinds of action come down to four. -/
inductive Action.Amounts (a : Action) (settings : Settings) (id : NodeId) :
    (Scene → Scene) → Prop where
  /-- The savegame changes elsewhere than in the party and the replaced tiles. -/
  | elsewhere (change : Savegame → Savegame) (text : Savegame → String)
      (hparty : ∀ save, (change save).party = save.party)
      (htiles : ∀ save, (change save).tileChanges = save.tileChanges) :
      Amounts a settings id fun s => (s.setSave (change s.save)).remark id (text s.save)
  | items (hkind : a.kind = .addItem) : Amounts a settings id (a.applyItem id)
  | currency (c : Currency) (hkind : a.kind = c.kind) :
      Amounts a settings id (a.applyCurrency settings id c)
  | ailment (ailment : Ailment) (hkind : a.kind = .addAilment)
      (hailment : Ailment.ofIndex? a.object = some ailment) :
      Amounts a settings id (a.applyAilment id ailment)

namespace Action

variable {a : Action} {settings : Settings} {id : NodeId}

/-- A flag is written elsewhere. -/
theorem Amounts.flag (what : String) (read : Savegame → Bool) (write : Savegame → Bool → Savegame)
    (hparty : ∀ save on, (write save on).party = save.party)
    (htiles : ∀ save on, (write save on).tileChanges = save.tileChanges) :
    a.Amounts settings id (a.applyFlag id what read write) :=
  .elsewhere (fun save => write save (flagAfter a.value (read save)))
    (fun save => s!"{what} = {Text.inspectBool (flagAfter a.value (read save))}")
    (fun save => hparty save _) fun save => htiles save _

/-- **Every action amounts to one of these.** -/
theorem effect_amounts {f : Scene → Scene} (h : a.effect settings id = .ok f) :
    a.Amounts settings id f := by
  unfold effect at h
  cases hkind : a.kind with
  | addItem =>
      simp only [hkind] at h
      injection h with h
      exact h ▸ .items hkind
  | addGold =>
      simp only [hkind] at h
      injection h with h
      exact h ▸ .currency .gold hkind
  | addFood =>
      simp only [hkind] at h
      injection h with h
      exact h ▸ .currency .food hkind
  -- an ailment or a facing may not exist
  | addAilment =>
      simp only [hkind] at h
      split at h
      · cases h
      · next ailment hailment =>
          injection h with h
          exact h ▸ .ailment ailment hkind hailment
  | setDirection =>
      simp only [hkind] at h
      split at h
      · cases h
      · next direction hdirection =>
          injection h with h
          exact h ▸ .elsewhere (fun save => { save with direction := direction })
            (fun _ => s!"facing {direction.inspect}") (fun _ => rfl) fun _ => rfl
  | addKeyword =>
      simp only [hkind] at h
      injection h with h
      exact h ▸ .elsewhere (·.addWord a.object) (fun _ => s!"learned word {a.object}")
        (fun _ => rfl) fun _ => rfl
  -- there are more numbers than game options
  | setGameOption =>
      simp only [hkind] at h
      injection h with h
      refine h ▸ .flag _ _ _ ?_ ?_
      · intro save on
        unfold Savegame.setGameOption
        split <;> rfl
      · intro save on
        unfold Savegame.setGameOption
        split <;> rfl
  | setGlobalVariable | setEventBit | setCharacterBit | lockDoor | lockChest =>
      simp only [hkind] at h
      injection h with h
      exact h ▸ .flag _ _ _ (fun _ _ => rfl) fun _ _ => rfl

end Action

/-! ## §3. Effects. -/

/-- The kinds of node that work on the savegame whenever they run.  A spinner or a trap can also be
looked at. -/
def Payload.alwaysWrites : Payload → Bool
  | .removeBuffs _ | .award _ | .changeTile _ | .action _ => true
  | _ => false

/-- **The effects of a node**: what it makes of the scene `s`, whatever it throws and logs. -/
inductive Node.Affects (settings : Settings) (origin : Origin) (n : Node) (s : Scene) :
    Scene → Prop where
  /-- The host is asked for something, or nothing happens at all. -/
  | asks {s' : Scene} (calls : List HostCall) (hsave : s'.save = s.save)
      (hsettled : s'.settled = s.settled) (hcalls : s'.calls = s.calls ++ calls.toArray)
      (hrequests : ∀ c ∈ calls, n.Requests origin c) (hn : n.payload.alwaysWrites = false) :
      Affects settings origin n s s'
  | turns {s' : Scene} (facing : Direction) {spin : Option Direction} (hn : n.payload = .spinner spin)
      (hsave : s'.save = { s.save with direction := facing }) (hsettled : s'.settled = s.settled)
      (hcalls : s'.calls = s.calls.push (.spin facing)) : Affects settings origin n s s'
  | endsBuffs {s' : Scene} {buff : Option UInt8} (hn : n.payload = .removeBuffs buff)
      (hsave : s'.save = s.save.removeBuffs buff) (hsettled : s'.settled = s.settled)
      (hcalls : s'.calls = s.calls) : Affects settings origin n s s'
  | acts {a : Action} {f : Scene → Scene} (hn : n.payload = .action a)
      (hf : a.effect settings n.id = .ok f) : Affects settings origin n s (f s)
  | awards {a : Award} (hn : n.payload = .award a) : Affects settings origin n s (a.apply n.id s)
  | springs {t : Trap} (hn : n.payload = .trap t) :
      Affects settings origin n s (t.spring n.id s).2
  | replaces {r : TileReplacement} (hn : n.payload = .changeTile r) :
      Affects settings origin n s (s.replaceTile n.id origin r)

namespace Node.Affects

variable {settings : Settings} {origin : Origin} {n : Node} {s s' : Scene}

/-- A node may do nothing but throw the dice. -/
theorem nothing (hn : n.payload.alwaysWrites = false) (hsave : s'.save = s.save)
    (hsettled : s'.settled = s.settled) (hcalls : s'.calls = s.calls) :
    n.Affects settings origin s s' :=
  .asks [] hsave hsettled (by rw [hcalls, Array.append_empty]) (List.forall_mem_nil _) hn

/-- A node may make a single request, also after it threw the dice. -/
theorem call {c : HostCall} (hn : n.payload.alwaysWrites = false) (hsave : s'.save = s.save)
    (hsettled : s'.settled = s.settled) (hcalls : s'.calls = s.calls) (h : n.Requests origin c) :
    n.Affects settings origin s (s'.call c) := by
  refine .asks [c] hsave hsettled ?_ ?_ hn
  · show s'.calls.push c = _
    rw [hcalls]
    rfl
  · intro c' hc'
    rw [List.mem_singleton.1 hc']
    exact h

end Node.Affects

/-- **Every kind of node has one of the effects.** -/
theorem Node.perform_affects {ctx : Context} {m : GameMap} {origin : Origin} {n : Node} {c : Cursor}
    {f : Scene → Stepped} (h : n.perform ctx m origin c = .ok f) (s : Scene) :
    n.Affects ctx.settings origin s (f s).scene := by
  -- many kinds do nothing but tell the walk where to go
  have nothing {n : Node} (hn : n.payload.alwaysWrites = false) :
      n.Affects ctx.settings origin s s := .nothing hn rfl rfl rfl
  obtain ⟨id, declared, next, payload⟩ := n
  cases payload with
  | teleport target x y direction transition =>
      cases h
      cases c.trigger with
      | move | always => exact .call rfl rfl rfl rfl (.teleport rfl)
      | _ => exact nothing rfl
  | door d =>
      cases h
      dsimp only
      split <;> exact nothing rfl
  | chest k =>
      cases h
      dsimp only
      split
      · exact nothing rfl
      -- a search throws the dice, and one that fails is told to the player
      · cases k.searchCheck with
        | false => exact nothing rfl
        | true =>
            simp only [if_true]
            split
            · exact .nothing rfl rfl rfl rfl
            · exact .call rfl rfl rfl rfl (.message _)
  | popupText text image byMoving byCursor =>
      injection h with h
      subst h
      cases c.trigger <;> cases byMoving <;> cases byCursor <;> exact nothing rfl
  | spinner direction =>
      cases h
      have hsave : (s.spinTo direction).2.save = s.save := by cases direction <;> rfl
      have hsettled : (s.spinTo direction).2.settled = s.settled := by cases direction <;> rfl
      have hcalls : (s.spinTo direction).2.calls = s.calls := by cases direction <;> rfl
      cases c.trigger with
      | move | always =>
          refine .turns (s.spinTo direction).1 rfl ?_ hsettled ?_
          · show { (s.spinTo direction).2.save with direction := (s.spinTo direction).1 } = _
            rw [hsave]
          · show (s.spinTo direction).2.calls.push (.spin (s.spinTo direction).1) = _
            rw [hcalls]
      | eye => exact .call rfl rfl rfl rfl (.message _)
      | _ => exact nothing rfl
  | trap t =>
      cases h
      cases c.trigger with
      | move | always => exact .springs rfl
      | eye => exact .call rfl rfl rfl rfl (.message _)
      | _ => exact nothing rfl
  | removeBuffs buff => cases h; exact .endsBuffs rfl rfl rfl rfl
  | riddlemouth riddleText solutionText answers =>
      injection h with h
      subst h
      cases c.trigger <;> exact nothing rfl
  | award a => cases h; exact .awards rfl
  | changeTile r => cases h; exact .replaces rfl
  | startBattle monsterGroup => cases h; exact nothing rfl
  | enterPlace p =>
      cases h
      dsimp only
      split
      · split
        · exact .call rfl rfl rfl rfl (.enterPlace ctx.admits rfl)
        · refine .asks [.enterPlace p.kind p.place p.usedMap ctx.admits,
            .message (.builtin ctx.settings.messages.placeRefused)] rfl rfl rfl ?_ rfl
          simp only [List.forall_mem_cons, List.not_mem_nil, false_implies, implies_true, and_true]
          exact ⟨.enterPlace ctx.admits rfl, .message _⟩
      · exact .call rfl rfl rfl rfl (.message _)
  | condition k =>
      cases h
      dsimp only
      split <;> exact .nothing rfl rfl rfl rfl
  | action a =>
      cases he : a.effect ctx.settings id with
      | error e => simp [perform, he] at h
      | ok effect =>
          simp only [perform, he] at h
          injection h with h
          subst h
          exact .acts rfl he
  | diceRoll chance alternate => cases h; exact .nothing rfl rfl rfl rfl
  | conversation kind =>
      injection h with h
      subst h
      dsimp only
      split <;> exact nothing rfl
  | decision text no => cases h; exact nothing rfl
  | changeMusic song volume => cases h; exact .call rfl rfl rfl rfl (.playMusic rfl)
  | spawn target x y travelType => cases h; exact .call rfl rfl rfl rfl (.spawn rfl)
  | unknown bytes => cases h; exact .nothing rfl rfl rfl rfl

/-! ## §4. Steps. -/

/-- A step that succeeds did what its node does; the rest is log. -/
theorem Node.perform_of_step {ctx : Context} {m : GameMap} {origin : Origin} {n : Node} {c : Cursor}
    {s s' : Scene} {r : Directive × Cursor} (h : n.step ctx m origin c s = (.ok r, s')) :
    ∃ f t, n.perform ctx m origin c = .ok f ∧ t.unlogged = s.unlogged
      ∧ (f t).scene.unlogged = s'.unlogged := by
  unfold step at h
  split at h
  · cases h
  · dsimp only at h
    split at h
    · cases h
    · next f hf =>
        injection h with _ h
        refine ⟨f, s.remark n.id s!"{n.declared.inspect} ({c.trigger.name})", hf, rfl, ?_⟩
        rw [← h]
        split <;> rfl

/-- **A step that succeeds has one of the effects**, but for the log. -/
theorem Node.step_affects {ctx : Context} {m : GameMap} {origin : Origin} {n : Node} {c : Cursor}
    {s s' : Scene} {r : Directive × Cursor} (h : n.step ctx m origin c s = (.ok r, s')) :
    ∃ t t', t.unlogged = s.unlogged ∧ t'.unlogged = s'.unlogged
      ∧ n.Affects ctx.settings origin t t' := by
  obtain ⟨f, t, hf, ht, ht'⟩ := perform_of_step h
  exact ⟨t, (f t).scene, ht, ht', perform_affects hf t⟩

end TileEvents
