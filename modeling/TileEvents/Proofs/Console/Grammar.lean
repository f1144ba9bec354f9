/-
  TileEvents.Proofs.Console.Grammar
  ─────────────────────────────────
  **WHAT CAN BE TYPED.**

  The lines that the console understands can be listed without saying how they
  are read: a keyword or one of its synonyms, and what has to follow it, up to
  the number of words.  A line is read as the command of the form its words
  have, and as an unknown command if they have none.  Turned around, the
  commands that some line is read as are all of them, but for hours that no
  day has, paths that are not one word, and answers that no one can speak.

    • `lookup_eq_some_iff`       — a keyword stands for one thing;
    • `ofWords?_eq_some`         — the words that stand for a command;
    • `parse_eq_iff`             — the lines that stand for it;
    • `exists_parse_iff`         — the commands that some line stands for;
    • `parses_exactly_its_forms` — all of it for every line and command.
-/
import TileEvents.Command
import TileEvents.Proofs.Text.Words
import TileEvents.Proofs.Word.Decimal

namespace TileEvents

open Text Word

/-! ## §1. Forms. -/

/-- The keywords of an interaction; items have a form of their own. -/
def Interaction.keywords : Interaction → List String
  | step => ["step", "walk", "move"]
  | look => ["look", "eye"]
  | touch => ["touch", "hand"]
  | talk => ["talk", "mouth"]
  | levitate => ["levitate", "fly"]
  | scripted => ["run"]
  | useItem _ => []

namespace Command

/-- The keywords that stand for a command all alone. -/
def keywords : Command → List String
  | respond .closed => ["close", "ok", "dismiss"]
  | respond .yes => ["yes", "y"]
  | respond .no => ["no", "n"]
  | respond .unlocked => ["unlock"]
  | respond .won => ["won", "win"]
  | respond .fled => ["fled", "flee"]
  | endTick => ["tick"]
  | resetGuard => ["reset"]
  | tiles => ["tiles"]
  | party => ["party"]
  | status => ["status", "state"]
  | save none => ["save"]
  | load none => ["load"]
  | help => ["help", "?"]
  | quit => ["quit", "exit"]
  | _ => []

/-- **The words that stand for a command.** -/
inductive Form : List String → Command → Prop
  | alone {keyword : String} {c : Command} : keyword ∈ c.keywords → Form [keyword] c
  | tile {keyword a b : String} {i : Interaction} {x y : UInt8} : keyword ∈ i.keywords →
      IsNumeral x.toNat a.toList → IsNumeral y.toNat b.toList →
        Form [keyword, a, b] (interact i x y)
  | use {n a b : String} {item : UInt16} {x y : UInt8} : IsNumeral item.toNat n.toList →
      IsNumeral x.toNat a.toList → IsNumeral y.toNat b.toList →
        Form ["use", n, a, b] (interact (.useItem item) x y)
  | npc {n a b : String} {event : UInt16} {x y : UInt8} : IsNumeral event.toNat n.toList →
      IsNumeral x.toNat a.toList → IsNumeral y.toNat b.toList →
        Form ["npc", n, a, b] (character event x y)
  | say {ws : List String} : ws ≠ [] →
      Form ("say" :: ws) (respond (.word (String.intercalate " " ws)))
  | enter {a : String} {n : UInt32} : IsNumeral n.toNat a.toList →
      Form ["enter", a] (respond (.number n))
  | hour {a : String} {hour : UInt8} : IsNumeral hour.toNat a.toList → hour < 24 →
      Form ["hour", a] (setHour hour)
  | save (path : String) : Form ["save", path] (save (some path))
  | load (path : String) : Form ["load", path] (load (some path))

/-! ## §2. Keywords. -/

/-- What a list without doublets says of a keyword is what is looked up. -/
theorem lookup_eq_some_iff {β : Type} {l : List (String × β)} (h : (l.map Prod.fst).Nodup)
    {keyword : String} {b : β} : l.lookup keyword = some b ↔ (keyword, b) ∈ l := by
  induction l with
  | nil => simp
  | cons p l ih =>
      obtain ⟨k, b'⟩ := p
      rw [List.map_cons, List.nodup_cons] at h
      by_cases hk : keyword = k
      · subst hk
        have hout : (keyword, b) ∉ l := fun hmem => h.1 (List.mem_map.2 ⟨_, hmem, rfl⟩)
        simp [hout, eq_comm]
      · have hne : (keyword == k) = false := beq_false_of_ne hk
        simp [List.lookup_cons, hne, ih h.2, hk]

theorem mem_bareKeywords {keyword : String} {c : Command} :
    (keyword, c) ∈ bareKeywords ↔ keyword ∈ c.keywords := by
  cases c with
  | respond a => cases a <;> simp [bareKeywords, keywords]
  | save path => cases path <;> simp [bareKeywords, keywords]
  | load path => cases path <;> simp [bareKeywords, keywords]
  | _ => simp [bareKeywords, keywords]

theorem mem_tileKeywords {keyword : String} {i : Interaction} :
    (keyword, i) ∈ tileKeywords ↔ keyword ∈ i.keywords := by
  cases i <;> simp [tileKeywords, Interaction.keywords]

theorem lookup_bareKeywords {keyword : String} {c : Command} :
    bareKeywords.lookup keyword = some c ↔ keyword ∈ c.keywords :=
  (lookup_eq_some_iff (by decide)).trans mem_bareKeywords

theorem lookup_tileKeywords {keyword : String} {i : Interaction} :
    tileKeywords.lookup keyword = some i ↔ keyword ∈ i.keywords :=
  (lookup_eq_some_iff (by decide)).trans mem_tileKeywords

/-- The keywords of commands are words. -/
theorem solid_of_mem_keywords {keyword : String} {c : Command} (h : keyword ∈ c.keywords) :
    Solid keyword.toList := by
  have hall : ∀ p ∈ bareKeywords, Solid p.1.toList := by decide +kernel
  exact hall _ (mem_bareKeywords.2 h)

/-- So are those of interactions. -/
theorem solid_of_mem_tileKeywords {keyword : String} {i : Interaction} (h : keyword ∈ i.keywords) :
    Solid keyword.toList := by
  have hall : ∀ p ∈ tileKeywords, Solid p.1.toList := by decide +kernel
  exact hall _ (mem_tileKeywords.2 h)

/-- And those that other words follow. -/
theorem solid_of_followed :
    ∀ keyword ∈ ["use", "npc", "say", "enter", "hour", "save", "load"], Solid keyword.toList := by
  decide +kernel

/-! ## §3. Reading words. -/

theorem coordinates?_eq_some {a b : String} {x y : UInt8} :
    coordinates? a b = some (x, y) ↔ IsNumeral x.toNat a.toList ∧ IsNumeral y.toNat b.toList := by
  rw [← readWord8?_eq_some, ← readWord8?_eq_some, coordinates?]
  cases readWord8? a.toList <;> cases readWord8? b.toList <;> simp

section Forms

variable {keyword n a b : String} {c : Command}

theorem ofOne?_eq_some (h : keyword ≠ "say") :
    ofOne? keyword a = some c ↔ Form [keyword, a] c := by
  constructor
  · intro hone
    unfold ofOne? at hone
    split at hone
    · obtain ⟨n, hn, rfl⟩ := Option.map_eq_some_iff.1 hone
      exact .enter (readWord32?_eq_some.1 hn)
    · obtain ⟨hour, hhour, rfl⟩ := Option.map_eq_some_iff.1 hone
      obtain ⟨hread, hlt⟩ := Option.filter_eq_some_iff.1 hhour
      exact .hour (readWord8?_eq_some.1 hread) (of_decide_eq_true hlt)
    · cases hone
      exact .save a
    · cases hone
      exact .load a
    · cases hone
  · intro hform
    cases hform with
    | say => exact absurd rfl h
    | enter hn => simp [ofOne?, readWord32?_eq_some.2 hn]
    | hour hhour hlt => simp [ofOne?, readWord8?_eq_some.2 hhour, Option.filter, hlt]
    | save => rfl
    | load => rfl

theorem ofTwo?_eq_some (h : keyword ≠ "say") :
    ofTwo? keyword a b = some c ↔ Form [keyword, a, b] c := by
  constructor
  · intro htwo
    unfold ofTwo? at htwo
    split at htwo
    · next i x y hi hxy =>
        cases htwo
        obtain ⟨hx, hy⟩ := coordinates?_eq_some.1 hxy
        exact .tile (lookup_tileKeywords.1 hi) hx hy
    · cases htwo
  · intro hform
    cases hform with
    | say => exact absurd rfl h
    | tile hi hx hy =>
        simp [ofTwo?, lookup_tileKeywords.2 hi, coordinates?_eq_some.2 ⟨hx, hy⟩]

theorem ofThree?_eq_some (h : keyword ≠ "say") :
    ofThree? keyword n a b = some c ↔ Form [keyword, n, a, b] c := by
  constructor
  · intro hthree
    unfold ofThree? at hthree
    split at hthree
    · next m x y hm hxy =>
        obtain ⟨hx, hy⟩ := coordinates?_eq_some.1 hxy
        have hn := readWord16?_eq_some.1 hm
        split at hthree
        · cases hthree
          exact .use hn hx hy
        · cases hthree
          exact .npc hn hx hy
        · cases hthree
    · cases hthree
  · intro hform
    cases hform with
    | say => exact absurd rfl h
    | use hn hx hy =>
        simp [ofThree?, readWord16?_eq_some.2 hn, coordinates?_eq_some.2 ⟨hx, hy⟩]
    | npc hn hx hy =>
        simp [ofThree?, readWord16?_eq_some.2 hn, coordinates?_eq_some.2 ⟨hx, hy⟩]

end Forms

/-- A word alone stands for a command if it is one of its keywords. -/
theorem form_alone_iff {keyword : String} {c : Command} :
    Form [keyword] c ↔ keyword ∈ c.keywords := by
  refine ⟨?_, .alone⟩
  intro h
  cases h with
  | alone hkeyword => exact hkeyword
  | say hne => exact absurd rfl hne

/-- Words after this keyword are said, whatever they are. -/
theorem form_say_iff {word : String} {rest : List String} {c : Command} :
    Form ("say" :: word :: rest) c
      ↔ c = respond (.word (String.intercalate " " (word :: rest))) := by
  constructor
  · intro h
    generalize hsay : "say" = keyword at h
    cases h with
    | say => rfl
    | @tile _ _ _ i _ _ hi =>
        rw [← hsay] at hi
        cases i <;> simp [Interaction.keywords] at hi
    | _ => exact absurd hsay (by decide)
  · rintro rfl
    exact .say (List.cons_ne_nil word rest)

/-- **The words that a command is read from.** -/
theorem ofWords?_eq_some {ws : List String} {c : Command} : ofWords? ws = some c ↔ Form ws c := by
  unfold ofWords?
  split
  next word rest => rw [form_say_iff, Option.some_inj, eq_comm]
  next keyword => rw [lookup_bareKeywords, form_alone_iff]
  next keyword a hsay => exact ofOne?_eq_some hsay
  next keyword a b hsay => exact ofTwo?_eq_some hsay
  next keyword n a b hsay => exact ofThree?_eq_some hsay
  next hsay hone htwo hthree hfour =>
    refine ⟨fun h => (nomatch h), ?_⟩
    intro h
    cases h with
    | alone => exact absurd rfl (hone _)
    | tile => exact absurd rfl (hthree _ _ _)
    | use | npc => exact absurd rfl (hfour _ _ _ _)
    | @say ws hne =>
        cases ws with
        | nil => exact absurd rfl hne
        | cons word rest => exact absurd rfl (hsay word rest)
    | enter | hour | save | load => exact absurd rfl (htwo _ _)

/-- No words stand for an unknown command. -/
theorem not_form_unknown {ws : List String} : ¬ Form ws unknown := by
  intro h
  cases h with
  | alone hkeyword => cases hkeyword

/-! ## §4. Reading lines. -/

section Lines

variable {line : String} {ws : List String} {c : Command}

/-- A line is read by its words. -/
theorem parse_eq_getD (h : Says line ws) : parse line = (ofWords? ws).getD unknown := by
  rw [parse, says_iff.1 h]

/-- **The lines that a command is read from** are those whose words stand for it. -/
theorem parse_eq_iff (h : Says line ws) (hc : c ≠ unknown) : parse line = c ↔ Form ws c := by
  rw [parse_eq_getD h, ← ofWords?_eq_some]
  cases ofWords? ws with
  | none => simpa using hc.symm
  | some c' => simp

end Lines

/-! ## §5. Commands that can be typed. -/

/-- **A command that some line is read as**: its hour is one of a day, its path is one word, and
what is said in answer are words with a single space between any two. -/
def Typable : Command → Prop
  | respond (.word text) =>
      ∃ ws, ws ≠ [] ∧ (∀ w ∈ ws, Solid w.toList) ∧ text = String.intercalate " " ws
  | setHour hour => hour < 24
  | save (some path) | load (some path) => Solid path.toList
  | _ => True

/-- Every number has a numeral that is a word. -/
theorem exists_numeral (n : Nat) : ∃ w : String, IsNumeral n w.toList ∧ Solid w.toList := by
  have hall : ∀ d < 10, isBlank (Nat.digitChar d) = false := by decide
  refine ⟨String.ofList (Nat.toDigits 10 n), ?_, ?_⟩
  · rw [String.toList_ofList]
    exact isNumeral_toDigits n
  · rw [String.toList_ofList]
    refine ⟨Nat.toDigits_ne_nil, ?_⟩
    intro c hc
    obtain ⟨d, hd, rfl⟩ := exists_digit (by decide) hc
    exact hall d hd

/-- A command with a form can be typed. -/
theorem Form.typable {ws : List String} {c : Command} (h : Form ws c)
    (hsolid : ∀ w ∈ ws, Solid w.toList) : c.Typable := by
  cases h with
  | alone hkeyword =>
      -- the commands that cannot be typed have no keyword of their own
      cases c with
      | respond a => cases a <;> trivial
      | save path => cases path <;> trivial
      | load path => cases path <;> trivial
      | setHour => cases hkeyword
      | _ => trivial
  | @say ws hne => exact ⟨ws, hne, (List.forall_mem_cons.1 hsolid).2, rfl⟩
  | hour hhour hlt => exact hlt
  | save path => exact hsolid path (by simp)
  | load path => exact hsolid path (by simp)
  | _ => trivial

/-- **A command that can be typed has a form.** -/
theorem Typable.exists_form {c : Command} (h : c.Typable) (hc : c ≠ unknown) :
    ∃ ws, (∀ w ∈ ws, Solid w.toList) ∧ Form ws c := by
  have halone (keyword : String) (h : keyword ∈ c.keywords) :
      ∃ ws, (∀ w ∈ ws, Solid w.toList) ∧ Form ws c :=
    ⟨[keyword], by simpa using solid_of_mem_keywords h, .alone h⟩
  cases c with
  | interact i x y =>
      obtain ⟨a, hx, ha⟩ := exists_numeral x.toNat
      obtain ⟨b, hy, hb⟩ := exists_numeral y.toNat
      have htile (keyword : String) (h : keyword ∈ i.keywords) :
          ∃ ws, (∀ w ∈ ws, Solid w.toList) ∧ Form ws (interact i x y) :=
        ⟨[keyword, a, b], by simp [solid_of_mem_tileKeywords h, ha, hb], .tile h hx hy⟩
      cases i with
      | step => exact htile "step" (by decide)
      | look => exact htile "look" (by decide)
      | touch => exact htile "touch" (by decide)
      | talk => exact htile "talk" (by decide)
      | scripted => exact htile "run" (by decide)
      | levitate => exact htile "levitate" (by decide)
      | useItem item =>
          obtain ⟨n, hitem, hn⟩ := exists_numeral item.toNat
          have huse : Solid "use".toList := solid_of_followed "use" (by decide)
          exact ⟨["use", n, a, b], List.forall_mem_cons.2 ⟨huse, by simp [hn, ha, hb]⟩,
            .use hitem hx hy⟩
  | character event x y =>
      obtain ⟨a, hx, ha⟩ := exists_numeral x.toNat
      obtain ⟨b, hy, hb⟩ := exists_numeral y.toNat
      obtain ⟨n, hevent, hn⟩ := exists_numeral event.toNat
      have hnpc : Solid "npc".toList := solid_of_followed "npc" (by decide)
      exact ⟨["npc", n, a, b], List.forall_mem_cons.2 ⟨hnpc, by simp [hn, ha, hb]⟩,
        .npc hevent hx hy⟩
  | respond answer =>
      cases answer with
      | word text =>
          obtain ⟨ws, hne, hws, rfl⟩ := h
          have hsay : Solid "say".toList := solid_of_followed "say" (by decide)
          exact ⟨"say" :: ws, List.forall_mem_cons.2 ⟨hsay, hws⟩, .say hne⟩
      | number number =>
          obtain ⟨n, hnumber, hn⟩ := exists_numeral number.toNat
          have henter : Solid "enter".toList := solid_of_followed "enter" (by decide)
          exact ⟨["enter", n], List.forall_mem_cons.2 ⟨henter, by simp [hn]⟩, .enter hnumber⟩
      | closed => exact halone "close" (by decide)
      | yes => exact halone "yes" (by decide)
      | no => exact halone "no" (by decide)
      | unlocked => exact halone "unlock" (by decide)
      | won => exact halone "won" (by decide)
      | fled => exact halone "fled" (by decide)
  | setHour hour =>
      obtain ⟨n, hhour, hn⟩ := exists_numeral hour.toNat
      have hkeyword : Solid "hour".toList := solid_of_followed "hour" (by decide)
      exact ⟨["hour", n], List.forall_mem_cons.2 ⟨hkeyword, by simp [hn]⟩, .hour hhour h⟩
  | save path =>
      cases path with
      | none => exact halone "save" (by decide)
      | some path =>
          have hsave : Solid "save".toList := solid_of_followed "save" (by decide)
          have hpath : Solid path.toList := h
          exact ⟨["save", path], List.forall_mem_cons.2 ⟨hsave, by simp [hpath]⟩, .save path⟩
  | load path =>
      cases path with
      | none => exact halone "load" (by decide)
      | some path =>
          have hload : Solid "load".toList := solid_of_followed "load" (by decide)
          have hpath : Solid path.toList := h
          exact ⟨["load", path], List.forall_mem_cons.2 ⟨hload, by simp [hpath]⟩, .load path⟩
  | endTick => exact halone "tick" (by decide)
  | resetGuard => exact halone "reset" (by decide)
  | tiles => exact halone "tiles" (by decide)
  | party => exact halone "party" (by decide)
  | status => exact halone "status" (by decide)
  | help => exact halone "help" (by decide)
  | quit => exact halone "quit" (by decide)
  | unknown => exact absurd rfl hc

/-- **The commands that some line is read as.** -/
theorem exists_parse_iff {c : Command} : (∃ line, parse line = c) ↔ c.Typable := by
  by_cases hc : c = unknown
  · rw [hc]
    exact ⟨fun _ => trivial, fun _ => ⟨"", rfl⟩⟩
  constructor
  · rintro ⟨line, hline⟩
    obtain ⟨ws, hws⟩ := exists_says line
    exact ((parse_eq_iff hws hc).1 hline).typable hws.solid
  · intro h
    obtain ⟨ws, hsolid, hform⟩ := h.exists_form hc
    exact ⟨_, (parse_eq_iff (says_join hsolid) hc).2 hform⟩

/-- **The console understands exactly its forms.**  Every line says one list of words, and lines
that say the same are read alike: as the command that the words stand for, or as an unknown one if
they stand for none.  All commands can be typed but for an hour that no day has, a path that is not
one word, and an answer that is not words with a single space between any two. -/
theorem parses_exactly_its_forms :
    (∀ line, ∃! ws, Says line ws)
      ∧ (∀ line line' ws, Says line ws → Says line' ws → parse line = parse line')
      ∧ (∀ line ws c, Says line ws → c ≠ .unknown → (parse line = c ↔ Form ws c))
      ∧ (∀ line ws, Says line ws → (parse line ≠ .unknown ↔ ∃ c, Form ws c))
      ∧ ∀ c, (∃ line, parse line = c) ↔ c.Typable := by
  refine ⟨?_, ?_, fun _ _ _ => parse_eq_iff, ?_, fun _ => exists_parse_iff⟩
  · intro line
    exact ⟨_, says_iff.2 rfl, fun ws hws => (says_iff.1 hws).symm⟩
  · intro line line' ws h h'
    rw [parse_eq_getD h, parse_eq_getD h']
  · intro line ws h
    constructor
    · intro hline
      exact ⟨_, (parse_eq_iff h hline).1 rfl⟩
    · rintro ⟨c, hform⟩
      have hc : c ≠ unknown := by
        rintro rfl
        exact not_form_unknown hform
      rwa [(parse_eq_iff h hc).2 hform]

end Command

end TileEvents
