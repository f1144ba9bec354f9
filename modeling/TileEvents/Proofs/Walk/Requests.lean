/-
  TileEvents.Proofs.Walk.Requests
  ───────────────────────────────
  **WHAT A VISIT ASKS OF THE HOST.**

  Requests to the host are only ever added, and what a visit adds is decided by
  its node: by the payload, by where the walk came from, and for a replacement
  by the tile it aims at.  So the requests of a walk are those of its visits,
  one visit after the other.

    • `Node.Makes`          — the requests a node can make;
    • `Node.Affects.makes`  — and that it makes no others;
    • `Visit.requests`      — the requests of a visit;
    • `Leads.calls`         — a walk makes the requests of its visits.
-/
import TileEvents.Proofs.Party.Turns
import TileEvents.Proofs.Walk.Settling

namespace TileEvents

/-! ## §1. Requests that are added. -/

/-- **Nothing becomes of the requests made before**, and all that are added are like this. -/
def Scene.Adds (P : HostCall → Prop) (s s' : Scene) : Prop :=
  ∃ added : List HostCall, s'.calls = s.calls ++ added.toArray ∧ ∀ c ∈ added, P c

namespace Scene.Adds

variable {P : HostCall → Prop} {s s' : Scene}

theorem none (h : s'.calls = s.calls) : s.Adds P s' :=
  ⟨[], by rw [h, Array.append_empty], List.forall_mem_nil _⟩

theorem one {c : HostCall} (h : s'.calls = s.calls.push c) (hc : P c) : s.Adds P s' :=
  ⟨[c], by rw [h, Array.push_eq_append], List.forall_mem_singleton.2 hc⟩

end Scene.Adds

/-! ## §2. Nodes. -/

/-- **A request that a node makes**, begun in the scene `s` by a walk with this origin. -/
inductive Node.Makes (origin : Origin) (n : Node) (s : Scene) : HostCall → Prop where
  | asks {c : HostCall} (h : n.Requests origin c) : Makes origin n s c
  | turns (facing : Direction) : Makes origin n s (.spin facing)
  | uncurses (member : Nat) (item : UInt16) : Makes origin n s (.itemUncursed member item)
  | replaces {r : TileReplacement} (h : n.payload = .changeTile r) :
      Makes origin n s (.updateTile (s.aimOf n.id origin r.target) r.tile)

/-- It depends on the settled targets alone. -/
theorem Node.Makes.congr {origin : Origin} {n : Node} {s t : Scene} {c : HostCall}
    (ht : t.settled = s.settled) (h : n.Makes origin t c) : n.Makes origin s c := by
  cases h with
  | asks h => exact .asks h
  | turns facing => exact .turns facing
  | uncurses member item => exact .uncurses member item
  | replaces h =>
      rw [Scene.aimOf_congr ht]
      exact .replaces h

/-- An action tells the host of curses at most. -/
theorem Action.effect_adds {a : Action} {settings : Settings} {id : NodeId} {f : Scene → Scene}
    (h : a.effect settings id = .ok f) (s : Scene) :
    s.Adds (fun c => ∃ member, c = .itemUncursed member a.object) (f s) := by
  cases effect_amounts h with
  | elsewhere change text hparty htiles => exact .none rfl
  | items hkind =>
      unfold applyItem
      dsimp only
      split
      · unfold giveItems
        dsimp only
        split <;> exact .none rfl
      · refine ⟨_, (takeItems_party id a.object _ s).2, ?_⟩
        intro c hc
        obtain ⟨member, -, rfl⟩ := List.mem_map.1 hc
        exact ⟨member, rfl⟩
      · exact .none rfl
  | currency c hkind =>
      unfold applyCurrency
      dsimp only
      split
      · exact .none rfl
      · split <;> exact .none rfl
      · exact .none rfl
  | ailment ailment hkind hailment =>
      unfold applyAilment
      split <;> exact .none rfl

/-- A replacement tells the host of the tile it aims at. -/
theorem Scene.replaceTile_calls (s : Scene) (id : NodeId) (origin : Origin) (r : TileReplacement) :
    (s.replaceTile id origin r).calls
      = s.calls.push (.updateTile (s.aimOf id origin r.target) r.tile) := by
  unfold replaceTile
  rw [s.settle_eq]
  cases origin.event <;> rfl

/-- **A node makes its own requests and no others.** -/
theorem Node.Affects.makes {settings : Settings} {origin : Origin} {n : Node} {s s' : Scene}
    (h : n.Affects settings origin s s') : s.Adds (n.Makes origin s) s' := by
  cases h with
  | asks calls hsave hsettled hcalls hrequests =>
      exact ⟨calls, hcalls, fun c hc => .asks (hrequests c hc)⟩
  | turns facing hn hsave hsettled hcalls => exact .one hcalls (.turns facing)
  | endsBuffs hn hsave hsettled hcalls => exact .none hcalls
  | acts hn hf =>
      obtain ⟨added, hcalls, hadded⟩ := Action.effect_adds hf s
      refine ⟨added, hcalls, ?_⟩
      intro c hc
      obtain ⟨member, rfl⟩ := hadded c hc
      exact .uncurses member _
  -- awards and traps keep to the party
  | @awards a hn =>
      obtain ⟨dice, party, hchanges⟩ := a.apply_changes n.id s
      exact .none (congrArg (·.calls) hchanges)
  | @springs t hn =>
      obtain ⟨dice, party, hchanges⟩ := t.spring_changes n.id s
      exact .none (congrArg (·.calls) hchanges)
  | @replaces r hn => exact .one (s.replaceTile_calls n.id origin r) (.replaces hn)

/-! ## §3. Visits. -/

/-- The requests of a visit. -/
def Visit.requests (v : Visit) : List HostCall := v.after.calls.toList.drop v.before.calls.size

/-- **What a visit asks of the host comes after what was asked before**, and its node makes it. -/
theorem Visit.Happens.makes {ctx : Context} {m : GameMap} {v : Visit} (h : v.Happens ctx m) :
    v.after.calls.toList = v.before.calls.toList ++ v.requests
      ∧ ∀ c ∈ v.requests, v.node.Makes v.origin v.before c := by
  obtain ⟨id, c, r, hn, hstep⟩ := h
  obtain ⟨t, t', ht, ht', haffects⟩ := Node.step_affects hstep
  obtain ⟨added, hcalls, hadded⟩ := haffects.makes
  obtain ⟨-, hsettled, hbefore⟩ := Scene.eq_but_log ht
  rw [hbefore, (Scene.eq_but_log ht').2.2] at hcalls
  have hafter : v.after.calls.toList = v.before.calls.toList ++ added := by simp [hcalls]
  have hrequests : v.requests = added := by
    unfold Visit.requests
    rw [hafter, ← Array.length_toList, List.drop_left]
  rw [hrequests]
  exact ⟨hafter, fun c hc => (hadded c hc).congr hsettled⟩

/-- **A walk makes the requests of its visits**, in order. -/
theorem Leads.calls {ctx : Context} {m : GameMap} {s s' : Scene} {visits : List Visit}
    (h : Leads ctx m s visits s') :
    s'.calls.toList = s.calls.toList ++ visits.flatMap Visit.requests := by
  induction h with
  | rest h => rw [h.calls, List.flatMap_nil, List.append_nil]
  | visit hs hv _ ih => rw [ih, hv.makes.1, hs.calls, List.flatMap_cons, List.append_assoc]

end TileEvents
