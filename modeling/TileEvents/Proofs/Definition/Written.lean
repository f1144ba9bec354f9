/-
  TileEvents.Proofs.Definition.Written
  ────────────────────────────────────
  **NOTHING IS LOST IN BUILDING.**

  Building decodes the codes and links of a definition.  It can be undone: a
  node can be written down again, and what is written is the definition it was
  built from.  Two things do not come back, and they are all that two
  definitions of one node can differ in: a dice chance above 100, which counts
  as 100, and the index of an award that has no use for one.

    • `Table.code_eq`    — a code is recovered from what it stands for;
    • `build_isOk_iff`   — a payload is built exactly if all its codes decode;
    • `written_of_build` — what is built is written as it was;
    • `build_eq_ok_iff`  — which definitions build one payload;
    • `buildNodes_eq_error` — the first node that fails is the error of a table;
    • `building_keeps_all` — the three for nodes and maps.
-/
import TileEvents.Proofs.Definition.TypeTags

namespace TileEvents

/-! ## §1. Codes. -/

namespace Table

variable {α : Type}

/-- The codes up to the last one of their table stand for something. -/
theorem exists_iff {table : List α} {last : UInt8} (h : table.length = last.toNat + 1) {c : UInt8} :
    (∃ a, table[c.toNat]? = some a) ↔ c ≤ last := by
  rw [UInt8.le_iff_toNat_le]
  constructor
  · rintro ⟨a, ha⟩
    have hlt := (List.getElem?_eq_some_iff.1 ha).1
    omega
  · exact fun hle => ⟨_, List.getElem?_eq_getElem (by omega)⟩

variable [DecidableEq α]

/-- The code that stands for `a`. -/
def code (table : List α) (a : α) : UInt8 := .ofNat (table.idxOf a)

/-- **A code is recovered from what it stands for**, if nothing stands in its table twice. -/
theorem code_eq {table : List α} (hnodup : table.Nodup) {c : UInt8} {a : α}
    (h : table[c.toNat]? = some a) : code table a = c := by
  obtain ⟨hlt, rfl⟩ := List.getElem?_eq_some_iff.1 h
  rw [code, hnodup.idxOf_getElem _ hlt, UInt8.ofNat_toNat]

end Table

/-- The code of a transition. -/
def Transition.code (t : Transition) : UInt8 := Table.code all t

/-- The code of an audience. -/
def Audience.code (a : Audience) : UInt8 := Table.code all a

/-- The code of an operation. -/
def AwardOperation.code (o : AwardOperation) : UInt8 := Table.code all o

/-- The code of a kind of condition. -/
def ConditionKind.code (k : ConditionKind) : UInt8 := Table.code table (some k)

/-- The code of a kind of action. -/
def ActionKind.code (k : ActionKind) : UInt8 := Table.code all k

/-- The code of a way to begin a conversation. -/
def ConversationKind.code (k : ConversationKind) : UInt8 := Table.code all k

/-- The code of an ailment. -/
def Ailment.code (a : Ailment) : UInt8 := Table.code all a

namespace AwardKind

/-- The code of a kind of award. -/
def code : AwardKind → UInt8
  | attributeAt _ => 0
  | skillAt _ => 1
  | hitPoints => 2
  | spellPoints => 3
  | spellLearningPoints => 4
  | ailmentAt _ => 5
  | spellTypeAt _ => 6
  | languageAt _ => 7
  | experience => 8
  | trainingPoints => 9

/-- The index that a kind of award carries, or zero. -/
def index : AwardKind → UInt16
  | attributeAt index | skillAt index => index
  | ailmentAt bit | spellTypeAt bit | languageAt bit => bit
  | hitPoints | spellPoints | spellLearningPoints | experience | trainingPoints => 0

/-- Whether the kind with this code carries an index. -/
def TakesIndex (code : UInt8) : Prop := code ∈ [0, 1, 5, 6, 7]

instance (code : UInt8) : Decidable (TakesIndex code) := inferInstanceAs (Decidable (_ ∈ _))

/-- A kind of award has one code, and the index it came with if it carries one. -/
theorem code_index_of_code? {c : UInt8} {i : UInt16} {k : AwardKind} (h : ofCode? c i = some k) :
    k.code = c ∧ k.index = if TakesIndex c then i else 0 := by
  unfold ofCode? at h
  split at h <;> cases h
  all_goals
    next hc =>
      have hcode := congrArg UInt8.ofNat hc
      rw [UInt8.ofNat_toNat] at hcode
      subst hcode
      exact ⟨rfl, rfl⟩

/-- The kinds that carry no index are the same for every index. -/
theorem ofCode?_of_not_takesIndex {c : UInt8} (h : ¬ TakesIndex c) (i j : UInt16) :
    ofCode? c i = ofCode? c j := by
  unfold ofCode?
  split <;> first
    | rfl
    | next hc =>
        have hcode := congrArg UInt8.ofNat hc
        rw [UInt8.ofNat_toNat] at hcode
        subst hcode
        exact absurd (by decide) h

/-- There are ten kinds of award. -/
theorem exists_code?_iff {c : UInt8} {i : UInt16} : (∃ k, ofCode? c i = some k) ↔ c ≤ 9 := by
  have hle : c ≤ 9 ↔ c.toNat ≤ 9 := UInt8.le_iff_toNat_le
  rw [hle]
  unfold ofCode?
  split
  case h_11 h0 h1 h2 h3 h4 h5 h6 h7 h8 h9 =>
    simp only [imp_false] at h0 h1 h2 h3 h4 h5 h6 h7 h8 h9
    have hout : ¬ c.toNat ≤ 9 := by omega
    simp [hout]
  all_goals
    next hc => simp [hc]

end AwardKind

/-- There are 20 kinds of condition: of the codes up to 20 the code 11 is not in use. -/
theorem ConditionKind.exists_code?_iff {c : UInt8} :
    (∃ k, ofCode? c = some k) ↔ c ≤ 20 ∧ c ≠ 11 := by
  have hall : ∀ n < 21, (table[n]?).join.isSome = decide (n ≠ 11) := by decide
  have hle : c ≤ 20 ↔ c.toNat ≤ 20 := UInt8.le_iff_toNat_le
  have hne : c ≠ 11 ↔ c.toNat ≠ 11 := not_congr UInt8.toNat_inj.symm
  rw [← Option.isSome_iff_exists, hle, hne, ofCode?]
  by_cases hlt : c.toNat < 21
  · rw [hall _ hlt, decide_eq_true_eq]
    omega
  · have hout : table[c.toNat]? = none := List.getElem?_eq_none (by show 21 ≤ _; omega)
    rw [hout]
    simp
    omega

/-- A kind of condition has one code. -/
theorem ConditionKind.code_eq {c : UInt8} {k : ConditionKind} (h : ofCode? c = some k) :
    k.code = c :=
  Table.code_eq (by decide) (Option.join_eq_some_iff.1 h)

/-- A facing has one code. -/
theorem Direction.code_eq {c : UInt8} {t : Direction} (h : ofCode? c = some t) : t.code = c := by
  have hcode : t.code = Table.code all t := by cases t <;> rfl
  rw [hcode, Table.code_eq (by decide) h]

/-! ## §2. Decoding. -/

section Decoding

variable {ε α β : Type} {what : String} {c : UInt8}

/-- What comes of two steps comes of the second, once the first has come out. -/
theorem bind_eq_ok {x : Except ε α} {f : α → Except ε β} {b : β} :
    x >>= f = .ok b ↔ ∃ a, x = .ok a ∧ f a = .ok b := by
  cases x <;> simp [bind, Except.bind]

theorem exists_bind_eq_ok {x : Except ε α} {f : α → Except ε β} :
    (∃ b, x >>= f = .ok b) ↔ ∃ a, x = .ok a ∧ ∃ b, f a = .ok b := by
  simp only [bind_eq_ok]
  rw [exists_comm]
  simp only [exists_and_left]

theorem decode_eq_ok {o : Option α} {a : α} : decode what c o = .ok a ↔ o = some a := by
  cases o <;> simp [decode]

/-- A code that may be missing decodes if it does when it is there. -/
theorem exists_decodeOptional_eq_ok {f : UInt8 → Except Fault α} {c : Option UInt8} :
    (∃ o, decodeOptional f c = .ok o) ↔ ∀ c' ∈ c, ∃ a, f c' = .ok a := by
  cases c with
  | none => simp [decodeOptional]
  | some c' => cases h : f c' <;> simp [decodeOptional, h, Except.map]

/-- A code that may be missing is recovered if it is when it is there. -/
theorem map_of_decodeOptional {f : UInt8 → Except Fault α} {g : α → UInt8} {c : Option UInt8}
    {o : Option α} (h : decodeOptional f c = .ok o) (hg : ∀ c' a, f c' = .ok a → g a = c') :
    o.map g = c := by
  cases c with
  | none =>
      injection h with h
      rw [← h]
      rfl
  | some c' =>
      cases hc : f c' with
      | error fault => simp [decodeOptional, hc, Except.map] at h
      | ok a =>
          simp only [decodeOptional, hc, Except.map, Except.ok.injEq] at h
          rw [← h, Option.map_some, hg c' a hc]

/-- **All that can go wrong is that a code stands for nothing.** -/
def BlamesCode (x : Except Fault α) : Prop :=
  ∀ fault, x = .error fault → ∃ what c, fault = .badCode what c

namespace BlamesCode

theorem ok {a : α} : BlamesCode (.ok a : Except Fault α) :=
  fun _ h => nomatch h

theorem decode {o : Option α} : BlamesCode (decode what c o) := by
  intro fault h
  cases o with
  | none => exact ⟨what, c, (Except.error.inj h).symm⟩
  | some a => cases h

theorem decodeOptional {f : UInt8 → Except Fault α} {c : Option UInt8}
    (hf : ∀ c', BlamesCode (f c')) : BlamesCode (decodeOptional f c) := by
  intro fault h
  cases c with
  | none => cases h
  | some c' =>
      cases hc : f c' with
      | ok a => simp [TileEvents.decodeOptional, hc, Except.map] at h
      | error fault' =>
          simp only [TileEvents.decodeOptional, hc, Except.map, Except.error.injEq] at h
          exact h ▸ hf c' fault' hc

/-- What goes wrong in two steps goes wrong in one of them. -/
theorem bind {x : Except Fault α} {f : α → Except Fault β} (hx : BlamesCode x)
    (hf : ∀ a, BlamesCode (f a)) : BlamesCode (x >>= f) := by
  intro fault h
  cases x with
  | error fault' => exact Except.error.inj h ▸ hx fault' rfl
  | ok a => exact hf a fault h

end BlamesCode

end Decoding

/-! ## §3. Which payloads can be built. -/

namespace PayloadDefinition

/-- **Every code of a payload stands for something.** -/
def Decodes : PayloadDefinition → Prop
  | .teleport _ _ _ direction transition => (∀ c ∈ direction, c ≤ 3) ∧ transition ≤ 3
  | .spinner direction => ∀ c ∈ direction, c ≤ 3
  | .trap target _ ailment => target ≤ 1 ∧ ∀ c ∈ ailment, c ≤ 10
  | .award target kind operation _ _ _ => target ≤ 1 ∧ kind ≤ 9 ∧ operation ≤ 6
  | .condition kind _ _ _ _ => kind ≤ 20 ∧ kind ≠ 11
  | .action kind _ _ _ => kind ≤ 11
  | .conversation kind => kind ≤ 8
  | _ => True

/-- **A payload can be built exactly if all its codes decode.** -/
theorem build_isOk_iff {d : PayloadDefinition} : (∃ p, d.build = .ok p) ↔ d.Decodes := by
  -- how far the codes of each table go
  have hdirection (c : UInt8) := @Table.exists_iff _ Direction.all 3 rfl c
  have htransition (c : UInt8) := @Table.exists_iff _ Transition.all 3 rfl c
  have haudience (c : UInt8) := @Table.exists_iff _ Audience.all 1 rfl c
  have hailment (c : UInt8) := @Table.exists_iff _ Ailment.all 10 rfl c
  have hoperation (c : UInt8) := @Table.exists_iff _ AwardOperation.all 6 rfl c
  have haction (c : UInt8) := @Table.exists_iff _ ActionKind.all 11 rfl c
  have hconversation (c : UInt8) := @Table.exists_iff _ ConversationKind.all 8 rfl c
  cases d with
  | teleport map x y direction transition =>
      simp only [build, Decodes, exists_bind_eq_ok, decode_eq_ok, exists_decodeOptional_eq_ok,
        decodeDirection, Direction.ofCode?, Transition.ofCode?, Except.ok.injEq, exists_eq',
        and_true, exists_and_right, hdirection, htransition]
  | spinner direction =>
      simp only [build, Decodes, exists_bind_eq_ok, decode_eq_ok, exists_decodeOptional_eq_ok,
        decodeDirection, Direction.ofCode?, Except.ok.injEq, exists_eq', and_true, hdirection]
  | trap target baseDamage ailment =>
      simp only [build, Decodes, exists_bind_eq_ok, decode_eq_ok, exists_decodeOptional_eq_ok,
        Audience.ofCode?, Ailment.ofCode?, Except.ok.injEq, exists_eq', and_true, exists_and_right,
        haudience, hailment]
  | award target kind operation random index value =>
      simp only [build, Decodes, exists_bind_eq_ok, decode_eq_ok, Audience.ofCode?,
        AwardOperation.ofCode?, Except.ok.injEq, exists_eq', and_true, exists_and_right,
        haudience, AwardKind.exists_code?_iff, hoperation]
  | condition kind object value count alternate =>
      simp only [build, Decodes, exists_bind_eq_ok, decode_eq_ok, Except.ok.injEq, exists_eq',
        and_true, ConditionKind.exists_code?_iff]
  | action kind object value count =>
      simp only [build, Decodes, exists_bind_eq_ok, decode_eq_ok, ActionKind.ofCode?,
        Except.ok.injEq, exists_eq', and_true, haction]
  | conversation kind =>
      simp only [build, Decodes, exists_bind_eq_ok, decode_eq_ok, ConversationKind.ofCode?,
        Except.ok.injEq, exists_eq', and_true, hconversation]
  | _ => simp [build, Decodes]

/-- All that can be wrong with a payload is a code that stands for nothing. -/
theorem build_blamesCode (d : PayloadDefinition) : BlamesCode d.build := by
  have hdirection (direction : Option UInt8) :
      BlamesCode (decodeOptional decodeDirection direction) := .decodeOptional fun _ => .decode
  cases d with
  | teleport map x y direction transition =>
      exact .bind (hdirection direction) fun _ => .bind .decode fun _ => .ok
  | spinner direction => exact .bind (hdirection direction) fun _ => .ok
  | trap target baseDamage ailment =>
      exact .bind .decode fun _ => .bind (.decodeOptional fun _ => .decode) fun _ => .ok
  | award target kind operation random index value =>
      exact .bind .decode fun _ => .bind .decode fun _ => .bind .decode fun _ => .ok
  | condition kind object value count alternate => exact .bind .decode fun _ => .ok
  | action kind object value count => exact .bind .decode fun _ => .ok
  | conversation kind => exact .bind .decode fun _ => .ok
  | _ => exact .ok

end PayloadDefinition

/-! ## §4. Writing a payload down again. -/

/-- **A payload as it is written.** -/
def Payload.written : Payload → PayloadDefinition
  | .teleport map x y direction transition =>
      .teleport map x y (direction.map Direction.code) transition.code
  | .door d =>
      .door d.door d.key d.lockpickReduction d.unlockText (NodeId.toLink d.unlockFailed)
  | .chest c =>
      .chest c.chest c.key c.lockpickReduction c.searchCheck c.text (NodeId.toLink c.unlockFailed)
  | .popupText text image byMoving byCursor => .popupText text image byMoving byCursor
  | .spinner direction => .spinner (direction.map Direction.code)
  | .trap t => .trap t.target.code t.baseDamage (t.ailment.map Ailment.code)
  | .removeBuffs buff => .removeBuffs buff
  | .riddlemouth riddleText solutionText answers => .riddlemouth riddleText solutionText answers
  | .award a => .award a.target.code a.kind.code a.operation.code a.random a.kind.index a.value
  | .changeTile r => .changeTile r.target.map r.target.x r.target.y r.tile
  | .startBattle monsterGroup => .startBattle monsterGroup
  | .enterPlace p =>
      .enterPlace p.kind p.place p.openingHour p.closingHour p.closedText p.usedMap
  | .condition c => .condition c.kind.code c.object c.value c.count (NodeId.toLink c.alternate)
  | .action a => .action a.kind.code a.object a.value a.count
  | .diceRoll chance alternate => .diceRoll chance (NodeId.toLink alternate)
  | .conversation kind => .conversation kind.code
  | .decision text no => .decision text (NodeId.toLink no)
  | .changeMusic song volume => .changeMusic song volume
  | .spawn map x y travelType => .spawn map x y travelType
  | .unknown bytes => .raw bytes

namespace PayloadDefinition

/-- A payload without what building drops: a chance above 100, and the index of an award that has
no use for one. -/
def plain : PayloadDefinition → PayloadDefinition
  | .diceRoll chance alternate => .diceRoll (if chance ≤ 100 then chance else 100) alternate
  | .award target kind operation random index value =>
      .award target kind operation random (if AwardKind.TakesIndex kind then index else 0) value
  | d => d

/-- **What is built is written as it was**, but for what building drops. -/
theorem written_of_build {d : PayloadDefinition} {p : Payload} (h : d.build = .ok p) :
    p.written = d.plain := by
  have hdirection {c : UInt8} {t : Direction} (h : decodeDirection c = .ok t) : t.code = c :=
    Direction.code_eq (decode_eq_ok.1 h)
  cases d with
  | teleport map x y direction transition =>
      obtain ⟨o, ho, h⟩ := bind_eq_ok.1 h
      obtain ⟨t, ht, h⟩ := bind_eq_ok.1 h
      cases h
      have hfacing := map_of_decodeOptional ho fun _ _ => hdirection
      have hcode : t.code = transition := Table.code_eq (by decide) (decode_eq_ok.1 ht)
      simp only [Payload.written, plain, hfacing, hcode]
  | spinner direction =>
      obtain ⟨o, ho, h⟩ := bind_eq_ok.1 h
      cases h
      simp only [Payload.written, plain, map_of_decodeOptional ho fun _ _ => hdirection]
  | trap target baseDamage ailment =>
      obtain ⟨t, ht, h⟩ := bind_eq_ok.1 h
      obtain ⟨o, ho, h⟩ := bind_eq_ok.1 h
      cases h
      have htarget : t.code = target := Table.code_eq (by decide) (decode_eq_ok.1 ht)
      have hailment : o.map Ailment.code = ailment :=
        map_of_decodeOptional ho fun _ _ ha => Table.code_eq (by decide) (decode_eq_ok.1 ha)
      simp only [Payload.written, plain, htarget, hailment]
  | award target kind operation random index value =>
      obtain ⟨t, ht, h⟩ := bind_eq_ok.1 h
      obtain ⟨k, hk, h⟩ := bind_eq_ok.1 h
      obtain ⟨o, ho, h⟩ := bind_eq_ok.1 h
      cases h
      have htarget : t.code = target := Table.code_eq (by decide) (decode_eq_ok.1 ht)
      have hoperation : o.code = operation := Table.code_eq (by decide) (decode_eq_ok.1 ho)
      obtain ⟨hkind, hindex⟩ := AwardKind.code_index_of_code? (decode_eq_ok.1 hk)
      simp only [Payload.written, plain, htarget, hoperation, hkind, hindex]
  | condition kind object value count alternate =>
      obtain ⟨k, hk, h⟩ := bind_eq_ok.1 h
      cases h
      simp only [Payload.written, plain, ConditionKind.code_eq (decode_eq_ok.1 hk),
        NodeId.toLink_ofLink?]
  | action kind object value count =>
      obtain ⟨k, hk, h⟩ := bind_eq_ok.1 h
      cases h
      have hkind : k.code = kind := Table.code_eq (by decide) (decode_eq_ok.1 hk)
      simp only [Payload.written, plain, hkind]
  | conversation kind =>
      obtain ⟨k, hk, h⟩ := bind_eq_ok.1 h
      cases h
      have hkind : k.code = kind := Table.code_eq (by decide) (decode_eq_ok.1 hk)
      simp only [Payload.written, plain, hkind]
  | _ =>
      cases h
      simp only [Payload.written, plain, NodeId.toLink_ofLink?]

/-- Building looks at nothing that it drops. -/
theorem build_plain (d : PayloadDefinition) : d.plain.build = d.build := by
  cases d with
  | diceRoll chance alternate =>
      have hchance : (if (if chance ≤ 100 then chance else 100) ≤ 100
          then (if chance ≤ 100 then chance else 100) else 100)
          = if chance ≤ 100 then chance else (100 : UInt8) := by
        split <;> simp_all
      simp only [plain, build, hchance]
  | award target kind operation random index value =>
      by_cases hkind : AwardKind.TakesIndex kind
      · simp only [plain, build, if_pos hkind]
      · simp only [plain, build, if_neg hkind, AwardKind.ofCode?_of_not_takesIndex hkind 0 index]
  | _ => rfl

/-- **Two payloads that building does not tell apart**: they differ at most in a chance that counts
as 100, or in an index that the award has no use for. -/
inductive Agrees : PayloadDefinition → PayloadDefinition → Prop
  | same (d : PayloadDefinition) : Agrees d d
  | diceRoll {chance chance' : UInt8} (alternate : UInt16) :
      100 ≤ chance → 100 ≤ chance' →
        Agrees (.diceRoll chance alternate) (.diceRoll chance' alternate)
  | award {kind : UInt8} (target operation : UInt8) (random : Bool) (index index' value : UInt16) :
      ¬ AwardKind.TakesIndex kind →
        Agrees (.award target kind operation random index value)
          (.award target kind operation random index' value)

theorem Agrees.symm {d d' : PayloadDefinition} (h : d.Agrees d') : d'.Agrees d := by
  cases h with
  | same => exact .same d
  | diceRoll alternate hchance hchance' => exact .diceRoll alternate hchance' hchance
  | award target operation random index index' value hkind =>
      exact .award target operation random index' index value hkind

theorem Agrees.trans {d d' d'' : PayloadDefinition} (h : d.Agrees d') (h' : d'.Agrees d'') :
    d.Agrees d'' := by
  cases h with
  | same => exact h'
  | diceRoll alternate hchance hchance' =>
      cases h' with
      | same => exact .diceRoll alternate hchance hchance'
      | diceRoll _ _ hchance'' => exact .diceRoll alternate hchance hchance''
  | award target operation random index index' value hkind =>
      cases h' with
      | same => exact .award target operation random index index' value hkind
      | award _ _ _ _ index'' _ _ => exact .award target operation random index index'' value hkind

/-- What building drops is not told apart. -/
theorem agrees_plain (d : PayloadDefinition) : d.Agrees d.plain := by
  cases d with
  | diceRoll chance alternate =>
      by_cases hchance : chance ≤ 100
      · simp only [plain, if_pos hchance, Agrees.same]
      · simp only [plain, if_neg hchance]
        exact .diceRoll alternate (UInt8.le_of_lt (UInt8.not_le.1 hchance)) (UInt8.le_refl 100)
  | award target kind operation random index value =>
      by_cases hkind : AwardKind.TakesIndex kind
      · simp only [plain, if_pos hkind, Agrees.same]
      · simp only [plain, if_neg hkind]
        exact .award target operation random index 0 value hkind
  | _ => exact .same _

/-- Payloads are not told apart exactly if the same is left of them. -/
theorem agrees_iff {d d' : PayloadDefinition} : d.Agrees d' ↔ d'.plain = d.plain := by
  constructor
  · intro h
    cases h with
    | same => rfl
    | diceRoll alternate hchance hchance' =>
        have hcap {c : UInt8} (h : 100 ≤ c) : (if c ≤ 100 then c else 100) = 100 := by
          split
          next hle => exact UInt8.le_antisymm hle h
          next => rfl
        simp only [plain, hcap hchance, hcap hchance']
    | award target operation random index index' value hkind => simp only [plain, if_neg hkind]
  · intro h
    have hplain : d.Agrees d'.plain := h ▸ d.agrees_plain
    exact hplain.trans d'.agrees_plain.symm

/-- **Which payloads are built alike.** -/
theorem build_eq_ok_iff {d d' : PayloadDefinition} {p : Payload} (h : d.build = .ok p) :
    d'.build = .ok p ↔ d.Agrees d' := by
  rw [agrees_iff]
  constructor
  · intro h'
    rw [← written_of_build h', written_of_build h]
  · intro hplain
    rw [← d'.build_plain, hplain, d.build_plain, h]

end PayloadDefinition

/-! ## §5. Nodes and tables. -/

namespace NodeDefinition

variable {position : Nat} {d d' : NodeDefinition}

/-- A node is built exactly if links can name its position and all its codes decode. -/
theorem build_isOk_iff :
    (∃ n, d.build position = .ok n) ↔ position ≤ 65535 ∧ d.payload.Decodes := by
  rw [← PayloadDefinition.build_isOk_iff]
  unfold build
  split
  case isFalse hposition => simp [hposition]
  case isTrue hposition => cases d.payload.build <;> simp [hposition]

/-- What is wrong with a node that links can name is a code of that node. -/
theorem build_eq_error (hposition : position ≤ 65535) {e : ChainError}
    (h : d.build position = .error e) :
    ∃ what c, e = .corruptData ⟨UInt16.ofNat position⟩ (.badCode what c) := by
  rw [build, if_pos hposition] at h
  cases hpayload : d.payload.build with
  | ok payload => simp [hpayload] at h
  | error fault =>
      simp only [hpayload, Except.error.injEq] at h
      obtain ⟨what, c, rfl⟩ := d.payload.build_blamesCode fault hpayload
      exact ⟨what, c, h.symm⟩

/-- **Which definitions one node is built from.** -/
theorem build_eq_ok_iff {n : Node} (h : d.build position = .ok n) :
    d'.build position = .ok n
      ↔ d'.type = d.type ∧ d'.next = d.next ∧ d.payload.Agrees d'.payload := by
  obtain ⟨-, hdeclared, hnext, hpayload⟩ := build_eq_ok h
  constructor
  · intro h'
    obtain ⟨-, hdeclared', hnext', hpayload'⟩ := build_eq_ok h'
    refine ⟨?_, ?_, (PayloadDefinition.build_eq_ok_iff hpayload).1 hpayload'⟩
    · exact EventType.ofCode_inj.1 (hdeclared'.symm.trans hdeclared)
    · rw [← NodeId.toLink_ofLink? d'.next, ← hnext', hnext, NodeId.toLink_ofLink?]
  · rintro ⟨htype, hlink, hagrees⟩
    have hpayload' := (PayloadDefinition.build_eq_ok_iff hpayload).2 hagrees
    have hsame : d'.build position = d.build position := by
      simp only [build, htype, hlink, hpayload, hpayload']
    rw [hsame, h]

end NodeDefinition

/-- **The first node that fails is the error of its table.** -/
theorem buildNodes_eq_error {e : ChainError} : ∀ {position : Nat} {ds : List NodeDefinition},
    buildNodes position ds = .error e
      ↔ ∃ (i : Nat) (n : NodeDefinition), ds[i]? = some n ∧ n.build (position + i) = .error e
          ∧ ∀ j < i, ∀ n' : NodeDefinition, ds[j]? = some n' →
              ∃ node, n'.build (position + j) = .ok node := by
  intro position ds
  induction ds generalizing position with
  | nil => simp [buildNodes]
  | cons d ds ih =>
      have hshift (j : Nat) : position + 1 + j = position + (j + 1) := by omega
      cases hd : d.build position with
      | error e' =>
          -- the first node has failed, and those after it do not matter
          simp only [buildNodes, hd, Except.error.injEq]
          constructor
          · rintro rfl
            exact ⟨0, d, rfl, hd, by simp⟩
          · rintro ⟨i, n, hn, hbuild, hbefore⟩
            cases i with
            | zero =>
                cases hn
                exact Except.error.inj (hd.symm.trans hbuild)
            | succ i =>
                obtain ⟨node, hnode⟩ := hbefore 0 (Nat.succ_pos i) d rfl
                rw [Nat.add_zero, hd] at hnode
                cases hnode
      | ok node =>
          have hrest : buildNodes position (d :: ds) = .error e
              ↔ buildNodes (position + 1) ds = .error e := by
            cases hds : buildNodes (position + 1) ds <;> simp [buildNodes, hd, hds]
          rw [hrest, ih]
          simp only [hshift]
          constructor
          · rintro ⟨i, n, hn, hbuild, hbefore⟩
            refine ⟨i + 1, n, hn, hbuild, ?_⟩
            intro j hj n' hn'
            cases j with
            | zero =>
                cases hn'
                exact ⟨node, hd⟩
            | succ j => exact hbefore j (Nat.lt_of_succ_lt_succ hj) n' hn'
          · rintro ⟨i, n, hn, hbuild, hbefore⟩
            cases i with
            | zero =>
                cases hn
                rw [Nat.add_zero, hd] at hbuild
                cases hbuild
            | succ i =>
                exact ⟨i, n, hn, hbuild, fun j hj => hbefore (j + 1) (Nat.succ_lt_succ hj)⟩

/-- A table fails if one of its nodes does. -/
theorem exists_buildNodes_eq_error : ∀ {position : Nat} {ds : List NodeDefinition} {i : Nat}
    {n : NodeDefinition} {e : ChainError}, ds[i]? = some n → n.build (position + i) = .error e →
      ∃ e', buildNodes position ds = .error e' := by
  intro position ds i n e hn hbuild
  cases hds : buildNodes position ds with
  | error e' => exact ⟨e', rfl⟩
  | ok nodes =>
      -- a table that was built has a node at every position
      obtain ⟨hlength, hget⟩ := buildNodes_get hds
      have hlt : i < nodes.length := hlength ▸ (List.getElem?_eq_some_iff.1 hn).1
      obtain ⟨n', hn', hbuild'⟩ := hget i _ (List.getElem?_eq_getElem hlt)
      rw [hn] at hn'
      cases hn'
      rw [hbuild] at hbuild'
      cases hbuild'

/-- A map fails exactly if its table does. -/
theorem MapDefinition.build_eq_error {d : MapDefinition} {e : ChainError} :
    d.build = .error e ↔ buildNodes 0 d.nodes = .error e := by
  unfold build
  cases buildNodes 0 d.nodes <;> simp

/-- **Building keeps all that a definition says.**  A node is built exactly if links can name its
position and every code in it stands for something, and otherwise it is the node that is corrupt.
Two nodes that are built into one differ at most in a chance that counts as 100 or in the index of
an award that has no use for one.  A map fails exactly if one of its nodes does, with the error of
the first. -/
theorem building_keeps_all :
    (∀ (position : Nat) (d : NodeDefinition),
        (∃ n, d.build position = .ok n) ↔ position ≤ 65535 ∧ d.payload.Decodes)
      ∧ (∀ (position : Nat) (d : NodeDefinition) (e : ChainError), position ≤ 65535 →
          d.build position = .error e →
            ∃ fault, e = .corruptData ⟨UInt16.ofNat position⟩ fault)
      ∧ (∀ (position : Nat) (d d' : NodeDefinition) (n : Node), d.build position = .ok n →
          (d'.build position = .ok n
            ↔ d'.type = d.type ∧ d'.next = d.next ∧ d.payload.Agrees d'.payload))
      ∧ (∀ d : MapDefinition, (∃ e, d.build = .error e)
          ↔ ∃ (i : Nat) (n : NodeDefinition) (e : ChainError),
              d.nodes[i]? = some n ∧ n.build i = .error e)
      ∧ ∀ (d : MapDefinition) (e : ChainError), d.build = .error e
          ↔ ∃ (i : Nat) (n : NodeDefinition), d.nodes[i]? = some n ∧ n.build i = .error e
              ∧ ∀ j < i, ∀ n' : NodeDefinition, d.nodes[j]? = some n' →
                  ∃ node, n'.build j = .ok node := by
  have hfirst (d : MapDefinition) (e : ChainError) :=
    (@MapDefinition.build_eq_error d e).trans buildNodes_eq_error
  simp only [Nat.zero_add] at hfirst
  refine ⟨fun _ _ => NodeDefinition.build_isOk_iff, ?_, ?_, ?_, hfirst⟩
  · intro position d e hposition h
    obtain ⟨what, c, he⟩ := NodeDefinition.build_eq_error hposition h
    exact ⟨_, he⟩
  · exact fun position d d' n => NodeDefinition.build_eq_ok_iff
  · intro d
    constructor
    · rintro ⟨e, h⟩
      obtain ⟨i, n, hn, hbuild, -⟩ := (hfirst d e).1 h
      exact ⟨i, n, e, hn, hbuild⟩
    · rintro ⟨i, n, e, hn, hbuild⟩
      rw [← Nat.zero_add i] at hbuild
      obtain ⟨e', h⟩ := exists_buildNodes_eq_error hn hbuild
      exact ⟨e', d.build_eq_error.2 h⟩

end TileEvents
