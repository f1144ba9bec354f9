/-
  TileEvents.Proofs.Definition.TypeTags
  ─────────────────────────────────────
  **WHERE VALIDATION AND A WALK AGREE ON TYPES.**

  Twice a declared type is held against a payload: by validation, which
  compares codes, and before a node runs, by the types the codes stand for.
  The two tables say the same of every payload that has a type of its own.
  Bytes have none: validation lets them pass under any code, a walk only under
  a code that is not known.

    • `build_type?`                 — a payload has the type of its code;
    • `typeMismatch_mem_problems`   — what validation reports, by definition;
    • `typeMismatch_mem_of_build`   — and by the nodes of the map;
    • `type_problems_iff_clash`     — no type is reported exactly if every node
                                      with a type of its own can be used, and
                                      then no run fails for a type but at
                                      bytes under a known one.
-/
import TileEvents.Proofs.Session.Validated

namespace TileEvents

/-! ## §1. Two tables of types. -/

/-- Different codes stand for different types. -/
theorem EventType.ofCode_inj {a b : UInt8} : EventType.ofCode a = EventType.ofCode b ↔ a = b := by
  refine ⟨?_, fun h => by rw [h]⟩
  intro h
  rw [← EventType.code_ofCode a, h, EventType.code_ofCode]

/-- **A payload has the type that its code stands for**, or none if it has no code. -/
theorem PayloadDefinition.build_type? {d : PayloadDefinition} {p : Payload} (h : d.build = .ok p) :
    p.type? = d.typeCode?.map EventType.ofCode := by
  cases d <;> simp only [build, bind, Except.bind] at h <;> (repeat' split at h) <;> cases h <;> rfl

/-- **A node that was built can be used** if its code is the one that is declared, or if it has none
and the declared one is not known. -/
theorem NodeDefinition.isConsistent_of_build {position : Nat} {d : NodeDefinition} {n : Node}
    (h : d.build position = .ok n) :
    n.isConsistent = true
      ↔ match d.payload.typeCode? with
        | some code => code = d.type
        | none => (EventType.ofCode d.type).isKnown = false := by
  obtain ⟨-, hdeclared, -, hpayload⟩ := build_eq_ok h
  have htype := PayloadDefinition.build_type? hpayload
  unfold Node.isConsistent
  rw [htype, hdeclared]
  cases d.payload.typeCode? with
  | some code =>
      show (EventType.ofCode code == EventType.ofCode d.type) = true ↔ _
      rw [beq_iff_eq, EventType.ofCode_inj]
  | none => cases EventType.ofCode d.type <;> simp [EventType.isKnown]

/-! ## §2. What validation reports. -/

section Reports

variable {i : Nat} {declared code : UInt8}

/-- **The types that validation reports of a definition.** -/
theorem MapDefinition.typeMismatch_mem_problems {d : MapDefinition} :
    .typeMismatch i declared code ∈ d.problems
      ↔ ∃ n, d.nodes[i]? = some n ∧ n.type = declared ∧ n.payload.typeCode? = some code
          ∧ code ≠ declared := by
  rw [mem_problems]
  constructor
  · intro h
    cases h with
    | node hn hfaulty =>
        cases hfaulty with
        | type hcode hne => exact ⟨_, hn, rfl, hcode, hne⟩
  · rintro ⟨n, hn, rfl, hcode, hne⟩
    exact .node hn (.type hcode hne)

/-- **The same of its map**: a node is reported if it has a type of its own and cannot be used. -/
theorem MapDefinition.typeMismatch_mem_of_build {d : MapDefinition} {m : GameMap}
    (h : d.build = .ok m) :
    .typeMismatch i declared code ∈ d.problems
      ↔ ∃ n, m.nodes[i]? = some n ∧ n.isConsistent = false ∧ n.declared.code = declared
          ∧ n.payload.type?.map EventType.code = some code := by
  -- a node that was built differs from its codes exactly if it cannot be used
  have hnode : ∀ {d' : NodeDefinition} {n : Node}, d'.build i = .ok n →
      ((d'.type = declared ∧ d'.payload.typeCode? = some code ∧ code ≠ declared)
        ↔ n.isConsistent = false ∧ n.declared.code = declared
            ∧ n.payload.type?.map EventType.code = some code) := by
    intro d' n hbuild
    obtain ⟨-, hdeclared, -, hpayload⟩ := NodeDefinition.build_eq_ok hbuild
    have hconsistent := NodeDefinition.isConsistent_of_build hbuild
    rw [← Bool.not_eq_true, hconsistent, hdeclared, PayloadDefinition.build_type? hpayload,
      EventType.code_ofCode]
    cases d'.payload.typeCode? with
    | none => simp
    | some own =>
        simp only [Option.map_some, EventType.code_ofCode, Option.some.injEq]
        constructor
        · rintro ⟨rfl, rfl, hne⟩
          exact ⟨hne, rfl, rfl⟩
        · rintro ⟨hne, rfl, rfl⟩
          exact ⟨rfl, rfl, hne⟩
  rw [typeMismatch_mem_problems]
  constructor
  · rintro ⟨d', hd', hreported⟩
    -- the table of the map is as long, so there is a node at this position
    have hlt : i < m.nodes.size := by
      rw [size_of_build h]
      exact (List.getElem?_eq_some_iff.1 hd').1
    obtain ⟨d'', hd'', hbuild⟩ := node_of_build h (Array.getElem?_eq_getElem hlt)
    rw [hd'] at hd''
    injection hd'' with hd''
    subst hd''
    exact ⟨_, Array.getElem?_eq_getElem hlt, (hnode hbuild).1 hreported⟩
  · rintro ⟨n, hn, hclash⟩
    obtain ⟨d', hd', hbuild⟩ := node_of_build h hn
    exact ⟨d', hd', (hnode hbuild).2 hclash⟩

end Reports

/-! ## §3. What a run complains about. -/

/-- Declared types and payloads disagree only where bytes stand under a type that is known. -/
def GameMap.ClashesOnlyAtBytes (m : GameMap) : Prop :=
  ∀ n ∈ m.nodes, n.isConsistent = false → n.payload.type? = none ∧ n.declared.isKnown = true

/-- If the result is a complaint about a declared type, then one about bytes under a type that is
known. -/
def BlamesOnlyBytes (result : Except ChainError Outcome) : Prop :=
  ∀ id declared own, result = .error (.corruptData id (.mismatch declared own)) →
    own = none ∧ declared.isKnown = true

/-- Any other result is no such complaint. -/
theorem BlamesOnlyBytes.of_other {result : Except ChainError Outcome}
    (h : ∀ id declared own, result ≠ .error (.corruptData id (.mismatch declared own))) :
    BlamesOnlyBytes result :=
  fun id declared own hresult => absurd hresult (h id declared own)

/-- A node complains about its own type and payload. -/
theorem Node.Breaks.blamesOnlyBytes {m : GameMap} {n : Node} {e : ChainError} (h : n.Breaks e)
    (hm : m.ClashesOnlyAtBytes) {id : NodeId} (hn : m.node id = .ok n) :
    BlamesOnlyBytes (.error e) := by
  cases h with
  | mismatch hc =>
      intro id' declared own he
      injection he with he
      injection he with _ hfault
      injection hfault with hdeclared hown
      rw [← hdeclared, ← hown]
      exact hm n (Array.mem_of_getElem? (GameMap.node_eq_ok.1 hn)) hc
  | direction a ha hkind hobject => exact .of_other (by simp)
  | ailment a ha hkind hobject => exact .of_other (by simp)

namespace GameMap.ClashesOnlyAtBytes

variable {m : GameMap}

theorem walk (hm : m.ClashesOnlyAtBytes) (ctx : Context) (origin : Origin) (start : NodeId)
    (trigger : Trigger) (status : Bool) (s : Scene) :
    BlamesOnlyBytes (walk ctx m origin start trigger status s).1 := by
  have hend := walk_ends ctx m origin start trigger status s
  generalize (TileEvents.walk ctx m origin start trigger status s).1 = result at hend
  cases hend with
  | breaks id n e hreach hn he => exact he.blamesOnlyBytes hm hn
  | _ => exact .of_other (by simp)

theorem resume (hm : m.ClashesOnlyAtBytes) (ctx : Context) (w : Suspension) (a : Answer)
    (s : Scene) : BlamesOnlyBytes (resume ctx m w a s).1 := by
  have hend := resume_ends ctx m w a s
  generalize TileEvents.resume ctx m w a s = result at hend
  cases hend with
  | breaks n e hn he => exact he.blamesOnlyBytes hm hn
  | refused n r s' hn hr hs => cases r <;> exact .of_other (by simp [Refusal.error])
  | walked n next status s' hn hb => exact hm.walk ctx w.origin next .always status s'
  | _ => exact .of_other (by simp)

theorem onTile (hm : m.ClashesOnlyAtBytes) (session : Session) (ctx : Context) (x y : UInt8)
    (trigger : Trigger) (s : Scene) : BlamesOnlyBytes (session.onTile ctx m x y trigger s).1 := by
  have hend := session.onTile_ends ctx m x y trigger s
  generalize (session.onTile ctx m x y trigger s).1 = result at hend
  generalize (session.onTile ctx m x y trigger s).2.1 = session' at hend
  cases hend with
  | unknown event e hevent he =>
      rw [GameMap.chainHead_eq_error he]
      exact .of_other (by simp)
  | stuck event head e hevent hhead he =>
      -- the guard looks at declared types, but holds no payload against them
      obtain ⟨-, j, -, rfl⟩ := (RepeatGuard.holdsBack_eq_error hhead).1 he
      exact .of_other (by simp)
  | fired event head s' hevent hhead hpassed => exact hm.walk ctx _ head trigger false s'
  | _ => exact .of_other (by simp)

theorem onCharacter (hm : m.ClashesOnlyAtBytes) (session : Session) (ctx : Context)
    (event : UInt16) (x y : UInt8) (trigger : Trigger) (s : Scene) :
    BlamesOnlyBytes (session.onCharacter ctx m event x y trigger s).1 := by
  have hend := session.onCharacter_ends ctx m event x y trigger s
  generalize (session.onCharacter ctx m event x y trigger s).1 = result at hend
  generalize (session.onCharacter ctx m event x y trigger s).2.1 = session' at hend
  cases hend with
  | unknown e he =>
      rw [GameMap.chainHead_eq_error he]
      exact .of_other (by simp)
  | started head s' hhead hfree => exact hm.walk ctx _ head trigger false s'
  | _ => exact .of_other (by simp)

end GameMap.ClashesOnlyAtBytes

namespace Playthrough

/-- A game on maps whose types and payloads disagree only at bytes. -/
def PlaysTyped (p : Playthrough) : Prop := ∀ st ∈ p.stages, st.map.ClashesOnlyAtBytes

/-- A report that complains about no declared type, but that of bytes. -/
def ReportsOnlyBytes (report : Report) : Prop :=
  ∀ result, report.result = .walked result → BlamesOnlyBytes result

/-- A move that does not walk complains about nothing. -/
theorem quietly_typed {p : Playthrough} (hp : p.PlaysTyped) {result : MoveResult}
    (h : ∀ r, result ≠ .walked r) :
    ReportsOnlyBytes (p.quietly result).1 ∧ (p.quietly result).2.PlaysTyped := by
  refine ⟨?_, hp⟩
  intro r hr
  exact absurd hr (h r)

/-- A map put in the place of one that it differs from in other things than its nodes. -/
theorem PlaysTyped.setStage {p : Playthrough} (hp : p.PlaysTyped) {stage : Nat} {st st' : Stage}
    (hst : p.stages[stage]? = some st) (hnodes : st'.map.nodes = st.map.nodes) :
    ∀ st'' ∈ p.stages.setIfInBounds stage st', st''.map.ClashesOnlyAtBytes := by
  intro st'' hmem
  rcases Array.mem_or_eq_of_mem_setIfInBounds hmem with hbefore | rfl
  · exact hp st'' hbefore
  · intro n hn
    rw [hnodes] at hn
    exact hp st (Array.mem_of_getElem? hst) n hn

/-- An interaction complains as it does on its map. -/
theorem interact_typed {p : Playthrough} (hp : p.PlaysTyped) {f : Interplay}
    (hf : ∀ ctx m session s, m.ClashesOnlyAtBytes → BlamesOnlyBytes (f ctx m session s).1)
    (stage : Nat) :
    ReportsOnlyBytes (p.interact stage f).1 ∧ (p.interact stage f).2.PlaysTyped := by
  unfold interact
  cases hst : p.stages[stage]? with
  | none => exact quietly_typed hp (by simp)
  | some st =>
      have hresult := hf p.context st.map p.session ⟨p.save, p.dice, st.settled, #[], #[]⟩
        (hp st (Array.mem_of_getElem? hst))
      refine ⟨?_, hp.setStage hst rfl⟩
      intro result hr
      injection hr with hr
      rw [← hr]
      exact hresult

/-- **Whatever the move, it complains about no declared type but that of bytes.** -/
theorem play_typed {p : Playthrough} (hp : p.PlaysTyped) (move : Move) :
    ReportsOnlyBytes (p.play move).1 ∧ (p.play move).2.PlaysTyped := by
  have hend := p.play_ends move
  generalize p.play move = played at hend
  cases hend with
  | tile stage x y interaction =>
      exact interact_typed hp (fun ctx _ session s hm => hm.onTile session ctx x y _ s) stage
  | character stage event x y interaction =>
      exact interact_typed hp (fun ctx _ session s hm => hm.onCharacter session ctx event x y _ s) stage
  | walk stage start interaction origin status =>
      exact interact_typed hp (fun ctx _ _ s hm => hm.walk ctx origin start _ status s) stage
  | resume stage which answer w =>
      exact interact_typed hp (fun ctx _ _ s hm => hm.resume ctx w answer s) stage
  | forge stage w answer =>
      exact interact_typed hp (fun ctx _ _ s hm => hm.resume ctx w answer s) stage
  | quiet result q hresult hstages =>
      refine quietly_typed ?_ hresult
      unfold PlaysTyped
      rw [hstages]
      exact hp
  | placed stage x y event st hst =>
      -- placing an event leaves the nodes alone
      refine quietly_typed ?_ (by simp)
      exact hp.setStage hst rfl

end Playthrough

/-! ## §4. Validation and runs. -/

/-- A node passes its check exactly if it can be used. -/
theorem Node.check_eq_ok {n : Node} : n.check = .ok () ↔ n.isConsistent = true := by
  unfold check
  split <;> simp_all

/-- Bytes can be used under a type that is not known, and under no other. -/
theorem Node.isConsistent_of_bytes {n : Node} (h : n.payload.type? = none) :
    n.isConsistent = true ↔ n.declared.isKnown = false := by
  unfold isConsistent
  rw [h]
  cases n.declared <;> simp [EventType.isKnown]

/-- No type is reported exactly if every node with a type of its own can be used. -/
theorem MapDefinition.no_typeMismatch_iff {d : MapDefinition} {m : GameMap} (h : d.build = .ok m) :
    (∀ i declared code, .typeMismatch i declared code ∉ d.problems)
      ↔ ∀ n ∈ m.nodes, n.payload.type? ≠ none → n.isConsistent = true := by
  simp only [typeMismatch_mem_of_build h]
  constructor
  · intro hreports n hn htype
    obtain ⟨own, hown⟩ := Option.ne_none_iff_exists'.1 htype
    obtain ⟨i, hi⟩ := Array.getElem?_of_mem hn
    rw [← Bool.not_eq_false]
    intro hclash
    exact hreports i n.declared.code own.code ⟨n, hi, hclash, rfl, by rw [hown]; rfl⟩
  · rintro husable i declared code ⟨n, hn, hclash, -, hcode⟩
    have htype : n.payload.type? ≠ none := by
      intro hnone
      rw [hnone] at hcode
      cases hcode
    rw [husable n (Array.mem_of_getElem? hn) htype] at hclash
    cases hclash

/-- **Validation reports no type exactly if every node with a type of its own can be used.**  Bytes
have none: validation never reports them, and they can be used exactly under a declared type that
is not known.  So without a report no run on the map fails for a declared type that does not go
with its payload, unless the payload is bytes and the declared type is known. -/
theorem type_problems_iff_clash {d : MapDefinition} {m : GameMap} (h : d.build = .ok m) :
    ((∀ i declared code, .typeMismatch i declared code ∉ d.problems)
        ↔ ∀ n ∈ m.nodes, n.payload.type? ≠ none → n.check = .ok ())
      ∧ (∀ n ∈ m.nodes, n.payload.type? = none →
          (n.check = .ok () ↔ n.declared.isKnown = false))
      ∧ ((∀ i declared code, .typeMismatch i declared code ∉ d.problems) →
          ∀ save dice ctx moves,
            ∀ report ∈ ((Playthrough.start [m] save dice ctx).playAll moves).1,
              ∀ id declared own,
                report.result = .walked (.error (.corruptData id (.mismatch declared own))) →
                  own = none ∧ declared.isKnown = true) := by
  simp only [Node.check_eq_ok]
  refine ⟨d.no_typeMismatch_iff h, fun n _ => Node.isConsistent_of_bytes, ?_⟩
  intro hreports save dice ctx moves report hreport id declared own hresult
  have hclash : m.ClashesOnlyAtBytes := by
    intro n hn hunusable
    have hbytes : n.payload.type? = none := by
      by_contra htype
      rw [(d.no_typeMismatch_iff h).1 hreports n hn htype] at hunusable
      cases hunusable
    refine ⟨hbytes, ?_⟩
    rw [← Bool.not_eq_false, ← Node.isConsistent_of_bytes hbytes, hunusable]
    exact Bool.false_ne_true
  have hstart : (Playthrough.start [m] save dice ctx).PlaysTyped := by
    intro st hst
    rw [List.mem_singleton.1 (Array.mem_toList_iff.2 hst)]
    exact hclash
  have hrun := @Playthrough.playAll_keeps _ _ (fun _ => True)
    (fun p move hp _ => Playthrough.play_typed hp move) moves _ hstart (fun _ _ => trivial)
  exact hrun.1 report hreport _ hresult id declared own rfl

/-- A spinner that is declared as one, and bytes of a later format: nothing is reported, and every
node can be used. -/
theorem type_problems_iff_clash_later :
    let d : MapDefinition := ⟨1, "", false, 2, 2, 0,
      [⟨5, 1, .spinner none⟩, ⟨42, 0xffff, .raw [7]⟩], [0], [⟨0, 0, 1⟩], []⟩
    ∃ m, d.build = .ok m ∧ (∀ n ∈ m.nodes, n.check = .ok ())
      ∧ ∀ i declared code, .typeMismatch i declared code ∉ d.problems := by
  intro d
  obtain ⟨m, hm, husable⟩ : ∃ m, d.build = .ok m ∧ ∀ n ∈ m.nodes, n.check = .ok () :=
    ⟨_, rfl, by decide⟩
  exact ⟨m, hm, husable, (type_problems_iff_clash hm).1.2 fun n hn _ => husable n hn⟩

/-- Bytes that are declared a teleport: nothing at all is reported, yet the node cannot be used, and
the first step on its tile fails for it. -/
theorem bytes_declared_teleport_not_reported :
    let d : MapDefinition := ⟨1, "", false, 2, 2, 0,
      [⟨1, 0xffff, .raw [7]⟩], [0], [⟨0, 0, 1⟩], []⟩
    d.problems = [] ∧ ∃ m, d.build = .ok m
      ∧ ¬ ((∀ i declared code, .typeMismatch i declared code ∉ d.problems)
            ↔ ∀ n ∈ m.nodes, n.check = .ok ())
      ∧ (Session.fresh.onTile (.plain []) m 0 0 .move .blank).1
          = .error (.corruptData ⟨0⟩ (.mismatch .teleport none)) := by
  intro d
  have hd : d.problems = [] := by decide
  refine ⟨hd, _, rfl, ?_, rfl⟩
  intro hiff
  have husable := hiff.1 (by simp [hd])
  exact absurd husable (by decide)

end TileEvents
