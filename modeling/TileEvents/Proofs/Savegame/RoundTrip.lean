/-
  TileEvents.Proofs.Savegame.RoundTrip
  ────────────────────────────────────
  **A SAVEGAME SURVIVES THE DISK.**

  The written form of a savegame is plain and nests ten levels deep at most,
  so its text is read as the value that was written.  Each part of that value
  is decoded to what it was made from: numbers fit the width they came from,
  fields stand under their own names, and a set is made up of its members.

    • `defaulted_found`, `required_found` — a field is decoded by its name;
    • `Member.ofValue?_toValue`           — a member of the party;
    • `Savegame.ofValue?_toValue`         — a savegame;
    • `Savegame.read?_write`              — its text;
    • `savegame_survives_disk`            — its file.
-/
import TileEvents.DataFile
import TileEvents.Proofs.Ron.Reading

namespace TileEvents

open Ron Decode

/-! ## §1. Single values. -/

namespace Ron.Decode

/-- A number that fits its width is decoded. -/
theorem whole_nat {bits n : Nat} (d : Dialect) (h : n < 2 ^ bits) :
    whole (.unsigned bits) d (.nat n) = some n := by
  have hpos : 0 < 2 ^ bits := Nat.two_pow_pos bits
  have hholds : (Width.unsigned bits).holds n = true := by
    show (decide ((0 : Int) ≤ n) && decide ((n : Int) ≤ ((1 <<< bits : Nat) : Int) - 1)) = true
    rw [Nat.one_shiftLeft, Bool.and_eq_true, decide_eq_true_eq, decide_eq_true_eq]
    omega
  simp [whole, Value.nat, Numeral.valueWithin?, hholds]

variable (d : Dialect)

theorem word8_word8 (w : UInt8) : word8 d (.word8 w) = some w := by
  unfold word8 Value.word8
  rw [whole_nat d w.toNat_lt]
  simp

theorem word16_word16 (w : UInt16) : word16 d (.word16 w) = some w := by
  unfold word16 Value.word16
  rw [whole_nat d w.toNat_lt]
  simp

theorem word32_word32 (w : UInt32) : word32 d (.word32 w) = some w := by
  unfold word32 Value.word32
  rw [whole_nat d w.toNat_lt]
  simp

theorem word64_word64 (w : UInt64) : word64 d (.word64 w) = some w := by
  unfold word64 Value.word64
  rw [whole_nat d w.toNat_lt]
  simp

theorem flag_flag (b : Bool) : flag d (.flag b) = some b := by
  cases b <;> rfl

theorem text_text (s : String) : text d (.text s) = some s := rfl

/-! ## §2. Lists and records. -/

variable {α : Type} {decode : Decoder α}

/-- A list of values is decoded one by one. -/
theorem list_list {value : α → Value} (h : ∀ a, decode d (value a) = some a) (as : List α) :
    list decode d (.list (as.map value)) = some as := by
  show (as.map value).mapM (decode d) = some as
  induction as with
  | nil => rfl
  | cons a as ih => simp [List.mapM_cons, h, ih]

/-- A record with the fields that it is asked for has these fields. -/
theorem fields_record {expected : String} {known : List String} {fs : Fields}
    (h : fs.map Prod.fst = known) : fields expected known .plain (.record none fs) = some fs := by
  have hpass : othersPassable known fs = true := by
    refine List.all_eq_true.2 fun f hf => ?_
    rw [← h, List.contains_iff_mem.2 (List.mem_map_of_mem hf), Bool.true_or]
  show (if (true && othersPassable known fs) = true then some fs else none) = _
  rw [hpass]
  rfl

variable {fs : Fields} {name : String} {v : Value} {a : α}

/-- A field that stands once is decoded. -/
theorem required_found (hfound : valuesOf name fs = [v]) (hv : decode d v = some a) :
    required d fs name decode = some a := by
  rw [required, hfound]
  exact hv

/-- So is one that could be missing. -/
theorem defaulted_found {missing : α} (hfound : valuesOf name fs = [v])
    (hv : decode d v = some a) : defaulted d fs name missing decode = some a := by
  rw [defaulted, hfound]
  exact hv

/-- What is decoded in two parts is decoded if both are. -/
theorem bind_found {β : Type} {part : Option α} {rest : α → Option β} {b : β}
    (ha : part = some a) (hb : rest a = some b) : (part >>= rest) = some b := by
  rw [ha]
  exact hb

end Ron.Decode

/-! ## §3. The parts of a savegame. -/

theorem Stat.ofValue?_toValue (s : Stat) : Stat.ofValue? .plain s.toValue = some s := by
  unfold ofValue?
  exact bind_found (fields_record rfl) <|
    bind_found (a := s.current) (required_found _ rfl (word32_word32 _ _)) <|
    bind_found (a := s.max) (required_found _ rfl (word32_word32 _ _)) <| rfl

theorem ItemSlot.ofValue?_toValue (s : ItemSlot) :
    ItemSlot.ofValue? .plain s.toValue = some s := by
  unfold ofValue?
  exact bind_found (fields_record rfl) <|
    bind_found (a := s.item) (required_found _ rfl (word16_word16 _ _)) <|
    bind_found (a := s.amount) (required_found _ rfl (word16_word16 _ _)) <|
    bind_found (a := s.cursed) (defaulted_found _ rfl (flag_flag _ _)) <| rfl

theorem BitAddress.ofValue?_toValue (a : BitAddress) :
    BitAddress.ofValue? .plain a.toValue = some a := by
  have hpair : pair word16 word16 .plain a.toValue = some (a.map, a.bit) := by
    simp only [toValue, pair, word16_word16]
  unfold ofValue?
  rw [hpair]
  rfl

theorem Direction.ofValue?_tag (w : Direction) :
    Direction.ofValue? .plain (.word w.tag) = some w :=
  ofTag?_tag w

theorem TileTarget.ofValue?_record (t : TileTarget) :
    TileTarget.ofValue? .plain
        (.record none [("map_index", .word16 t.map), ("x", .word8 t.x), ("y", .word8 t.y)])
      = some t := by
  unfold ofValue?
  exact bind_found (fields_record rfl) <|
    bind_found (a := t.map) (required_found _ rfl (word16_word16 _ _)) <|
    bind_found (a := t.x) (required_found _ rfl (word8_word8 _ _)) <|
    bind_found (a := t.y) (required_found _ rfl (word8_word8 _ _)) <| rfl

theorem TileChange.ofValue?_toValue (c : TileChange) :
    TileChange.ofValue? .plain c.toValue = some c := by
  unfold ofValue?
  exact bind_found (fields_record rfl) <|
    bind_found (a := c.target) (required_found _ rfl (TileTarget.ofValue?_record _)) <|
    bind_found (a := c.tile) (required_found _ rfl (word16_word16 _ _)) <| rfl

/-- **A member of the party is decoded as it was written.** -/
theorem Member.ofValue?_toValue (m : Member) : Member.ofValue? .plain m.toValue = some m := by
  have hstats := list_list .plain Stat.ofValue?_toValue
  have hslots := list_list .plain ItemSlot.ofValue?_toValue
  unfold ofValue?
  exact bind_found (fields_record rfl) <|
    bind_found (a := m.character) (defaulted_found _ rfl (word16_word16 _ _)) <|
    bind_found (a := m.name) (defaulted_found _ rfl (text_text _ _)) <|
    bind_found (a := m.gold) (defaulted_found _ rfl (word32_word32 _ _)) <|
    bind_found (a := m.food) (defaulted_found _ rfl (word32_word32 _ _)) <|
    bind_found (a := m.totalWeight) (defaulted_found _ rfl (word32_word32 _ _)) <|
    bind_found (a := m.hitPoints) (defaulted_found _ rfl (Stat.ofValue?_toValue _)) <|
    bind_found (a := m.spellPoints) (defaulted_found _ rfl (Stat.ofValue?_toValue _)) <|
    bind_found (a := m.attributes) (defaulted_found _ rfl (hstats _)) <|
    bind_found (a := m.skills) (defaulted_found _ rfl (hstats _)) <|
    bind_found (a := m.ailments) (defaulted_found _ rfl (word16_word16 _ _)) <|
    bind_found (a := m.languages) (defaulted_found _ rfl (word8_word8 _ _)) <|
    bind_found (a := m.spellSchools) (defaulted_found _ rfl (word8_word8 _ _)) <|
    bind_found (a := m.experience) (defaulted_found _ rfl (word32_word32 _ _)) <|
    bind_found (a := m.trainingPoints) (defaulted_found _ rfl (word32_word32 _ _)) <|
    bind_found (a := m.spellLearningPoints) (defaulted_found _ rfl (word32_word32 _ _)) <|
    bind_found (a := m.inventory) (defaulted_found _ rfl (hslots _)) <|
    bind_found (a := m.equipment) (defaulted_found _ rfl (hslots _)) <| rfl

namespace KeySet

variable {α : Type} [Ranked α]

/-- A set holds what it held and what is added. -/
theorem mem_foldl_insert (l : List α) (s : KeySet α) (a : α) :
    a ∈ (l.foldl (fun s b => s.insert b) s).toList ↔ a ∈ l ∨ a ∈ s.toList := by
  induction l generalizing s with
  | nil => simp
  | cons b l ih =>
      rw [List.foldl_cons, ih, mem_insert, List.mem_cons]
      tauto

/-- **A set is made up of its members.** -/
theorem ofList_toList (s : KeySet α) : ofList s.toList = s := by
  refine eq_of_mem_iff fun a => ?_
  unfold ofList
  rw [mem_foldl_insert]
  simp [empty]

theorem ofValue?_toValue {decode : Decoder α} {value : α → Value} {d : Dialect}
    (h : ∀ a, decode d (value a) = some a) (s : KeySet α) :
    ofValue? decode d (s.toValue value) = some s := by
  unfold ofValue? toValue
  rw [list_list d h, Option.map_some, ofList_toList]

end KeySet

/-- **A savegame is decoded as it was written.** -/
theorem Savegame.ofValue?_toValue (s : Savegame) :
    Savegame.ofValue? .plain s.toValue = some s := by
  have hwords (k : KeySet UInt16) : KeySet.ofValue? word16 .plain (k.toValue .word16) = some k :=
    k.ofValue?_toValue (word16_word16 .plain)
  have hbits (k : KeySet BitAddress) :
      KeySet.ofValue? BitAddress.ofValue? .plain (k.toValue BitAddress.toValue) = some k :=
    k.ofValue?_toValue BitAddress.ofValue?_toValue
  have hbuffs := s.activeBuffs.ofValue?_toValue (word8_word8 .plain)
  have hparty := list_list .plain Member.ofValue?_toValue
  have hchanges := list_list .plain TileChange.ofValue?_toValue
  unfold ofValue?
  exact bind_found (fields_record rfl) <|
    bind_found (a := s.globalVariables) (defaulted_found _ rfl (hwords _)) <|
    bind_found (a := s.eventBits) (defaulted_found _ rfl (hbits _)) <|
    bind_found (a := s.characterBits) (defaulted_found _ rfl (hbits _)) <|
    bind_found (a := s.unlockedDoors) (defaulted_found _ rfl (hwords _)) <|
    bind_found (a := s.unlockedChests) (defaulted_found _ rfl (hwords _)) <|
    bind_found (a := s.knownWords) (defaulted_found _ rfl (hwords _)) <|
    bind_found (a := s.gameOptions) (defaulted_found _ rfl (word32_word32 _ _)) <|
    bind_found (a := s.direction) (defaulted_found _ rfl (Direction.ofValue?_tag _)) <|
    bind_found (a := s.activeBuffs) (defaulted_found _ rfl hbuffs) <|
    bind_found (a := s.hour) (defaulted_found _ rfl (word8_word8 _ _)) <|
    bind_found (a := s.party) (defaulted_found _ rfl (hparty _)) <|
    bind_found (a := s.activeMember) (defaulted_found _ rfl (word64_word64 _ _)) <|
    bind_found (a := s.tileChanges) (defaulted_found _ rfl (hchanges _)) <| rfl

/-! ## §4. The shape of the written form. -/

namespace Ron.Value

/-- **Plain values that nest no deeper than `n` levels.** -/
structure Fits (n : Nat) (v : Value) : Prop where
  plain : v.isPlain = true
  levels : v.levels ≤ n

variable {n : Nat}

theorem Fits.mono {v : Value} {k : Nat} (h : Fits n v) (hle : n ≤ k) : Fits k v :=
  ⟨h.plain, Nat.le_trans h.levels hle⟩

theorem fits_nat (k : Nat) : Fits n (.nat k) := ⟨rfl, Nat.zero_le n⟩

theorem fits_text (s : String) : Fits n (.text s) := ⟨rfl, Nat.zero_le n⟩

theorem fits_flag (b : Bool) : Fits n (.flag b) where
  plain := by cases b <;> decide
  levels := Nat.zero_le n

theorem fits_tag (w : Direction) : Fits n (.word w.tag) where
  plain := by cases w <;> decide
  levels := Nat.zero_le n

/-- A list nests two levels deeper than its items. -/
theorem fits_list {α : Type} {value : α → Value} (h : ∀ a, Fits n (value a)) (as : List α) :
    Fits (n + 2) (.list (as.map value)) := by
  have hitems : itemsPlain (as.map value) = true ∧ itemsLevels (as.map value) ≤ n + 1 := by
    induction as with
    | nil => exact ⟨rfl, Nat.zero_le _⟩
    | cons a as ih =>
        have ha := (h a).levels
        rw [List.map_cons, itemsPlain, itemsLevels, (h a).plain, ih.1]
        exact ⟨rfl, by omega⟩
  refine ⟨hitems.1, ?_⟩
  rw [levels]
  omega

/-- A record nests two levels deeper than its fields. -/
theorem fits_record {fs : List (String × Value)} (hne : fs ≠ [])
    (h : ∀ f ∈ fs, isPlainWord f.1 = true ∧ Fits n f.2) : Fits (n + 2) (.record none fs) := by
  have hfields : fieldsPlain fs = true ∧ fieldsLevels fs ≤ n + 1 := by
    clear hne
    induction fs with
    | nil => exact ⟨rfl, Nat.zero_le _⟩
    | cons f fs ih =>
        obtain ⟨name, v⟩ := f
        obtain ⟨hname, hv⟩ := h (name, v) List.mem_cons_self
        obtain ⟨hplain, hlevels⟩ := ih fun f hf => h f (List.mem_cons_of_mem _ hf)
        have hdeep : v.levels ≤ n := hv.levels
        rw [fieldsPlain, fieldsLevels, hplain, hv.plain, show isPlainWord name = true from hname]
        exact ⟨rfl, by omega⟩
  constructor
  · rw [isPlain, hfields.1]
    simp [hne]
  · rw [levels]
    omega

end Ron.Value

open Ron.Value

theorem Stat.fits (s : Stat) : Fits 2 s.toValue := ⟨rfl, Nat.le_refl 2⟩

theorem ItemSlot.fits (s : ItemSlot) : Fits 2 s.toValue := by
  refine fits_record (List.cons_ne_nil _ _) ?_
  simp only [List.forall_mem_cons, fits_flag, Value.word16, fits_nat, and_true, List.not_mem_nil,
    false_implies, implies_true]
  decide

theorem BitAddress.fits (a : BitAddress) : Fits 2 a.toValue := ⟨rfl, Nat.le_refl 2⟩

theorem TileChange.fits (c : TileChange) : Fits 4 c.toValue := ⟨rfl, Nat.le_refl 4⟩

theorem Member.fits (m : Member) : Fits 6 m.toValue := by
  have hstat (s : Stat) : Fits 4 s.toValue := s.fits.mono (by decide)
  have hstats := fits_list Stat.fits
  have hslots := fits_list ItemSlot.fits
  refine fits_record (List.cons_ne_nil _ _) ?_
  simp only [List.forall_mem_cons, hstat, hstats, hslots, fits_text, Value.word8, Value.word16,
    Value.word32, fits_nat, and_true, List.not_mem_nil, false_implies, implies_true]
  decide

/-- **The written form of a savegame is plain and nests ten levels deep at most.** -/
theorem Savegame.fits (s : Savegame) : Fits 10 s.toValue := by
  have hwords (k : KeySet UInt16) : Fits 8 (k.toValue .word16) :=
    fits_list (fun _ => fits_nat _) k.toList
  have hbuffs (k : KeySet UInt8) : Fits 8 (k.toValue .word8) :=
    fits_list (fun _ => fits_nat _) k.toList
  have hbits (k : KeySet BitAddress) : Fits 8 (k.toValue BitAddress.toValue) :=
    fits_list (fun a => a.fits.mono (by decide)) k.toList
  have hparty := fits_list Member.fits
  have hchanges := fits_list fun c => (TileChange.fits c).mono (by decide : 4 ≤ 6)
  refine fits_record (List.cons_ne_nil _ _) ?_
  simp only [List.forall_mem_cons, hwords, hbuffs, hbits, hparty, hchanges, fits_tag, Value.word8,
    Value.word32, Value.word64, fits_nat, and_true, List.not_mem_nil, false_implies, implies_true]
  decide

/-! ## §5. Text and file. -/

/-- **The text of a savegame is read as that savegame.** -/
theorem Savegame.read?_write (s : Savegame) : Savegame.read? s.write = some s := by
  have hlevels : s.toValue.levels ≤ Value.maxLevels := Nat.le_trans s.fits.levels (by decide)
  have hdocument : Document.read? s.write = some ⟨.plain, s.toValue⟩ :=
    Document.read?_write s.fits.plain hlevels
  unfold Savegame.read?
  rw [hdocument]
  exact s.ofValue?_toValue

/-- **A savegame survives the disk**: its text is loaded as the same savegame, whatever file the text
comes from, and so is a file of any disk that it was stored in. -/
theorem savegame_survives_disk (s : Savegame) (path : String) :
    Savegame.load path (.ok s.write) = .ok s
      ∧ ∀ d d' : Disk, d.store path s.write = (.ok (), d') →
          Savegame.load path (d'.read path) = .ok s := by
  have hload : Savegame.load path (.ok s.write) = .ok s := by
    simp only [Savegame.load, loadDocument, s.read?_write]
  refine ⟨hload, ?_⟩
  intro d d' hstore
  rw [Disk.read_store hstore]
  exact hload

/-- A member with an apostrophe and a letter outside ASCII in the name, stored in a file with a
folder around it. -/
theorem savegame_survives_disk_folder :
    let s := Savegame.blank.setParty [{ Member.blank with name := "D'\u00e9n\u0301", gold := 12 }]
    ∃ d : Disk, Disk.blank.store "s/1" s.write = (.ok (), d)
      ∧ Savegame.load "s/1" (d.read "s/1") = .ok s := by
  intro s
  have hstore (text : String) : Disk.blank.store "s/1" text
      = (.ok (), ⟨[(["1", "s"], .file text), (["s"], .folder)]⟩) := by
    cbv
  exact ⟨_, hstore s.write, (savegame_survives_disk s "s/1").2 _ _ (hstore s.write)⟩

end TileEvents
