/-
  TileEvents.Proofs.Definition.Closed
  ───────────────────────────────────
  **A VALIDATED MAP LEADS NOWHERE BUT TO ITSELF.**

  Validation looks at the numbers of a definition, a walk at the links that
  were decoded from them.  The two meet in the links of a node, which building
  takes from the definition as they are, the reserved number aside:

    • `build_branch?`   — a payload keeps the second link it was written with;
    • `buildNodes_get`  — the node at a position is built from the definition
                          at that position, and knows it;
    • `problems_eq_nil` — what validation promises of a definition;
    • `build_isClosed`  — a definition without problems gives a closed map.
-/
import TileEvents.Definition.Build
import TileEvents.Proofs.Definition.Faults
import TileEvents.Proofs.Walk.Ending

namespace TileEvents

/-! ## §1. Closed maps. -/

/-- **A map on which no link, no chain and no tile leads astray.** -/
structure GameMap.IsClosed (m : GameMap) : Prop where
  /-- Every node knows its position. -/
  named : ∀ {id n}, m.node id = .ok n → n.id = id
  linked : ∀ {id n}, m.node id = .ok n → ∀ j ∈ n.links, ∃ n', m.node j = .ok n'
  headed : ∀ {event id}, m.chainHead event = .ok id → ∃ n, m.node id = .ok n
  placed : ∀ {x y event}, m.tileEvent? x y = some event → ∃ id, m.chainHead event = .ok id

namespace GameMap

/-- A node is there if its position lies in the table. -/
theorem node_of_lt {m : GameMap} {id : NodeId} (h : id.index.toNat < m.nodes.size) :
    ∃ n, m.node id = .ok n :=
  ⟨_, node_eq_ok.2 (Array.getElem?_eq_getElem h)⟩

/-- Exactly the events from 1 to the number of events have a chain. -/
theorem chainHead_eq_ok {m : GameMap} {event : UInt16} {id : NodeId} :
    m.chainHead event = .ok id ↔ 1 ≤ event.toNat ∧ m.chainHeads[event.toNat - 1]? = some id := by
  unfold chainHead
  split
  · simp_all
  · next n hn =>
      rw [hn]
      split <;> simp_all

/-- All that is wrong with an event is that it has no chain. -/
theorem chainHead_eq_error {m : GameMap} {event : UInt16} {e : ChainError}
    (h : m.chainHead event = .error e) : e = .unknownEvent event := by
  unfold chainHead at h
  split at h
  · injection h with h
    exact h.symm
  · split at h
    · cases h
    · injection h with h
      exact h.symm

/-- Events within the count of the map have a chain. -/
theorem chainHead_of_le {m : GameMap} {event : UInt16} (hpos : 1 ≤ event.toNat)
    (hcount : event.toNat ≤ m.eventCount) : ∃ id, m.chainHead event = .ok id := by
  unfold eventCount at hcount
  have hlt : event.toNat - 1 < m.chainHeads.size := by omega
  exact ⟨_, chainHead_eq_ok.2 ⟨hpos, Array.getElem?_eq_getElem hlt⟩⟩

end GameMap

/-! ## §2. What building keeps. -/

/-- The nodes that a definition of a node links to. -/
def NodeDefinition.targets (d : NodeDefinition) : List NodeId :=
  (NodeId.ofLink? d.next).toList ++ (d.payload.branch?.bind NodeId.ofLink?).toList

/-- **A payload keeps the second link it was written with.** -/
theorem PayloadDefinition.build_branch? {d : PayloadDefinition} {p : Payload}
    (h : d.build = .ok p) : p.branch? = d.branch?.bind NodeId.ofLink? := by
  cases d <;> simp only [build, bind, Except.bind] at h <;> (repeat' split at h) <;> cases h <;> rfl

/-- A node that was built knows its position and is in its parts what its definition says. -/
theorem NodeDefinition.build_eq_ok {position : Nat} {d : NodeDefinition} {n : Node}
    (h : d.build position = .ok n) :
    n.id.index.toNat = position ∧ n.declared = .ofCode d.type ∧ n.next = NodeId.ofLink? d.next
      ∧ d.payload.build = .ok n.payload := by
  unfold build at h
  split at h
  case isFalse => cases h
  case isTrue hposition =>
    cases hp : d.payload.build with
    | error fault => simp [hp] at h
    | ok payload =>
        simp only [hp] at h
        injection h with h
        subst h
        refine ⟨?_, rfl, rfl, rfl⟩
        -- positions above 65535 were refused, so nothing wraps around
        show (UInt16.ofNat position).toNat = position
        rw [UInt16.toNat_ofNat']
        omega

/-- A node that was built links where its definition says. -/
theorem NodeDefinition.links_of_build {position : Nat} {d : NodeDefinition} {n : Node}
    (h : d.build position = .ok n) : n.links = d.targets := by
  obtain ⟨-, -, hnext, hpayload⟩ := build_eq_ok h
  simp [Node.links, targets, hnext, PayloadDefinition.build_branch? hpayload]

/-- **The node at a position is built from the definition at that position.** -/
theorem buildNodes_get : ∀ {position : Nat} {ds : List NodeDefinition} {nodes : List Node},
    buildNodes position ds = .ok nodes →
    nodes.length = ds.length
      ∧ ∀ (i : Nat) (n : Node), nodes[i]? = some n →
          ∃ d, ds[i]? = some d ∧ d.build (position + i) = .ok n := by
  intro position ds
  induction ds generalizing position with
  | nil =>
      intro nodes h
      injection h with h
      simp [← h]
  | cons d ds ih =>
      intro nodes h
      unfold buildNodes at h
      cases hd : d.build position with
      | error e => simp [hd] at h
      | ok node =>
          cases hds : buildNodes (position + 1) ds with
          | error e => simp [hd, hds] at h
          | ok rest =>
              simp only [hd, hds] at h
              injection h with h
              obtain ⟨hlength, hget⟩ := ih hds
              rw [← h]
              refine ⟨by simp [hlength], ?_⟩
              intro i n hn
              cases i with
              | zero =>
                  injection hn with hn
                  exact ⟨d, rfl, by rw [← hn]; exact hd⟩
              | succ i =>
                  -- the rest of the table was built from one position further on
                  obtain ⟨d', hd', hbuild⟩ := hget i n hn
                  refine ⟨d', hd', ?_⟩
                  rw [← hbuild]
                  congr 1
                  omega

/-- A tile list after placing an event has only that event and the ones before. -/
theorem GameMap.mem_placeTile {t u : EventTile} {tiles : List EventTile}
    (h : u ∈ GameMap.placeTile t tiles) : u = t ∨ u ∈ tiles := by
  induction tiles with
  | nil => simpa [placeTile] using h
  | cons v tiles ih =>
      unfold placeTile at h
      split at h
      · simpa using h
      · split at h
        · rcases List.mem_cons.1 h with hv | hrest
          · exact .inr (hv ▸ List.mem_cons_self)
          · exact (ih hrest).imp_right (List.mem_cons_of_mem _)
        · exact (List.mem_cons.1 h).imp_right (List.mem_cons_of_mem _)

/-- Placing events touches the tiles alone. -/
theorem GameMap.foldl_placeEvent (ts : List TileDefinition) : ∀ (m : GameMap),
    let m' := ts.foldl (fun m t => m.placeEvent t.x t.y t.event) m
    m'.nodes = m.nodes ∧ m'.chainHeads = m.chainHeads ∧ m'.index = m.index
      ∧ ∀ u ∈ m'.tiles, u ∈ m.tiles ∨ ∃ t ∈ ts, u = ⟨t.x, t.y, t.event⟩ := by
  induction ts with
  | nil =>
      intro m
      exact ⟨rfl, rfl, rfl, fun u hu => .inl hu⟩
  | cons t ts ih =>
      intro m
      obtain ⟨hnodes, hheads, hindex, htiles⟩ := ih (m.placeEvent t.x t.y t.event)
      refine ⟨hnodes, hheads, hindex, ?_⟩
      intro u hu
      rcases htiles u hu with hplaced | ⟨t', ht', hplace⟩
      -- on this tile just placed, or there before it
      · rcases mem_placeTile hplaced with rfl | hbefore
        · exact .inr ⟨t, List.mem_cons_self, rfl⟩
        · exact .inl hbefore
      · exact .inr ⟨t', List.mem_cons_of_mem _ ht', hplace⟩

/-! ## §3. What validation promises. -/

/-- A link that fits leads into the table, if it leads anywhere. -/
theorem LinkFits.lt {count : Nat} {target : UInt16} {j : NodeId} (h : LinkFits count target)
    (hj : NodeId.ofLink? target = some j) : j.index.toNat < count := by
  unfold NodeId.ofLink? at hj
  split at hj
  case isTrue => cases hj
  case isFalse hlink =>
    injection hj with hj
    rw [← hj]
    exact h.resolve_left hlink

/-- **What validation promises of a definition without problems**: its links and chains lead into
its table, and its tiles lie on the map and carry events of its own. -/
theorem MapDefinition.problems_eq_nil {d : MapDefinition} (h : d.problems = []) :
    (∀ n ∈ d.nodes, ∀ j ∈ n.targets, j.index.toNat < d.nodes.length)
      ∧ (∀ head ∈ d.chainHeads, head.toNat < d.nodes.length)
      ∧ ∀ t ∈ d.tiles, t.x < d.width ∧ t.y < d.height
          ∧ 1 ≤ t.event.toNat ∧ t.event.toNat ≤ d.chainHeads.length := by
  -- what would be reported if it did not hold, holds
  have hall {p : Prop} [Decidable p] {e : DefinitionError} (hfaulty : ¬ p → d.Faulty e) : p := by
    refine Decidable.byContradiction fun hp => ?_
    have hreport := mem_problems.2 (hfaulty hp)
    rw [h] at hreport
    cases hreport
  refine ⟨?_, ?_, ?_⟩
  · intro n hn j hj
    obtain ⟨i, hi⟩ := List.getElem?_of_mem hn
    rcases List.mem_append.1 hj with hj | hj
    · have hfits : LinkFits d.nodes.length n.next := hall fun hout => .node hi (.next hout)
      exact hfits.lt (Option.mem_toList.1 hj)
    · obtain ⟨target, htarget, hj⟩ := Option.bind_eq_some_iff.1 (Option.mem_toList.1 hj)
      have hfits : LinkFits d.nodes.length target :=
        hall fun hout => .node hi (.branch htarget hout)
      exact hfits.lt hj
  · intro head hhead
    obtain ⟨i, hi⟩ := List.getElem?_of_mem hhead
    exact hall fun hout => .head hi hout
  · intro t ht
    have hcovers : d.Covers t := hall fun hout => .outside ht hout
    have hchains : d.Chains t := hall fun hout => .event ht hout
    exact ⟨hcovers.1, hcovers.2, hchains⟩

/-! ## §4. A definition without problems gives a closed map. -/

namespace MapDefinition

variable {d : MapDefinition} {m : GameMap}

/-- What a map takes from its definition. -/
theorem build_eq_ok (h : d.build = .ok m) :
    ∃ nodes, buildNodes 0 d.nodes = .ok nodes ∧ m.nodes = nodes.toArray
      ∧ m.chainHeads = (d.chainHeads.map NodeId.mk).toArray ∧ m.index = d.index
      ∧ ∀ u ∈ m.tiles, ∃ t ∈ d.tiles, u = ⟨t.x, t.y, t.event⟩ := by
  unfold build at h
  cases hnodes : buildNodes 0 d.nodes with
  | error e => simp [hnodes] at h
  | ok nodes =>
      simp only [hnodes] at h
      injection h with h
      subst h
      obtain ⟨hn, hh, hindex, ht⟩ := GameMap.foldl_placeEvent d.tiles _
      refine ⟨nodes, rfl, hn, hh, hindex, ?_⟩
      intro u hu
      exact (ht u hu).resolve_left List.not_mem_nil

/-- The table of a map is as long as that of its definition. -/
theorem size_of_build (h : d.build = .ok m) : m.nodes.size = d.nodes.length := by
  obtain ⟨nodes, hnodes, hn, -⟩ := build_eq_ok h
  rw [hn, List.size_toArray, (buildNodes_get hnodes).1]

/-- Every node of a map comes from the node of its definition at the same position. -/
theorem node_of_build (h : d.build = .ok m) {i : Nat} {n : Node} (hn : m.nodes[i]? = some n) :
    ∃ d', d.nodes[i]? = some d' ∧ d'.build i = .ok n := by
  obtain ⟨nodes, hnodes, hm, -⟩ := build_eq_ok h
  rw [hm, List.getElem?_toArray] at hn
  obtain ⟨d', hd', hbuild⟩ := (buildNodes_get hnodes).2 _ _ hn
  rw [Nat.zero_add] at hbuild
  exact ⟨d', hd', hbuild⟩

/-- Every chain head of a map stands in its definition. -/
theorem chainHead_of_build (h : d.build = .ok m) {event : UInt16} {id : NodeId}
    (hevent : m.chainHead event = .ok id) : id.index ∈ d.chainHeads := by
  obtain ⟨-, -, -, hh, -⟩ := build_eq_ok h
  obtain ⟨-, hhead⟩ := GameMap.chainHead_eq_ok.1 hevent
  rw [hh, List.getElem?_toArray, List.getElem?_map] at hhead
  obtain ⟨head, hget, rfl⟩ := Option.map_eq_some_iff.1 hhead
  exact List.mem_of_getElem? hget

/-- Every event on a tile of a map lies on that tile of its definition. -/
theorem tileEvent?_of_build (h : d.build = .ok m) {x y : UInt8} {event : UInt16}
    (hevent : m.tileEvent? x y = some event) :
    ∃ t ∈ d.tiles, t.x = x ∧ t.y = y ∧ t.event = event := by
  obtain ⟨-, -, -, -, -, ht⟩ := build_eq_ok h
  obtain ⟨u, hu, rfl⟩ := Option.map_eq_some_iff.1 hevent
  obtain ⟨t, htile, rfl⟩ := ht u (List.mem_of_find?_eq_some hu)
  have hplace := List.find?_some hu
  simp only [Bool.and_eq_true, beq_iff_eq] at hplace
  exact ⟨t, htile, hplace.1, hplace.2, rfl⟩

/-- **A definition without problems gives a closed map.** -/
theorem build_isClosed (hd : d.problems = []) (h : d.build = .ok m) : m.IsClosed where
  named hid := by
    obtain ⟨d', -, hbuild⟩ := node_of_build h (GameMap.node_eq_ok.1 hid)
    rw [NodeId.mk.injEq]
    exact UInt16.toNat_inj.1 (NodeDefinition.build_eq_ok hbuild).1
  linked hid j hj := by
    obtain ⟨d', hd', hbuild⟩ := node_of_build h (GameMap.node_eq_ok.1 hid)
    rw [NodeDefinition.links_of_build hbuild] at hj
    apply GameMap.node_of_lt
    rw [size_of_build h]
    exact (problems_eq_nil hd).1 d' (List.mem_of_getElem? hd') j hj
  headed hevent := by
    apply GameMap.node_of_lt
    rw [size_of_build h]
    exact (problems_eq_nil hd).2.1 _ (chainHead_of_build h hevent)
  placed hevent := by
    obtain ⟨t, htile, -, -, rfl⟩ := tileEvent?_of_build h hevent
    obtain ⟨-, -, hpos, hcount⟩ := (problems_eq_nil hd).2.2 t htile
    apply GameMap.chainHead_of_le hpos
    obtain ⟨-, -, -, hh, -⟩ := build_eq_ok h
    simpa [GameMap.eventCount, hh] using hcount

end MapDefinition

end TileEvents
