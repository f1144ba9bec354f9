/-
  TileEvents.Proofs.Ron.Scanning
  ──────────────────────────────
  **TOKENS ARE SCANNED AS THEY WERE SPELLED.**

  Tokens are spelled one behind the other with nothing between them.  A word
  or a number reaches as far as it can, and round brackets with nothing between
  them are one token, so not every token can stand behind every other one:
  `Token.parts` says which can.

    • `textBody?_quoted`  — quoted text, escape by escape;
    • `lexeme?_spell`     — one token, given what stands behind it;
    • `scan_spellAll`     — plain tokens that keep apart.
-/
import TileEvents.Proofs.Ron.Numerals
import TileEvents.Ron.Token

namespace TileEvents.Ron

/-! ## §1. Plain tokens. -/

/-- Whether a word is made of ASCII letters, digits and underscores and does not begin with a
digit. -/
def isPlainWord (name : String) : Bool :=
  match name.toList with
  | [] => false
  | c :: cs => (c.isAlpha || c == '_') && cs.all fun c => c.isAlphanum || c == '_'

/-- The tokens that documents are written with here. -/
def Token.isPlain : Token → Bool
  | .opening _ | .closing _ | .leaf .comma | .leaf .colon | .leaf .unit | .leaf (.text _) => true
  | .leaf (.word name) => isPlainWord name
  | .leaf (.number (.integer (.ofNat _) none)) => true
  | _ => false

/-- Whether a token ends the one before it whatever that is. -/
def Token.ends : Token → Bool
  | .closing _ | .leaf .comma | .leaf .colon => true
  | _ => false

/-- **Whether the second token can stand right behind the first.** -/
def Token.parts : Token → Token → Bool
  | .leaf (.word _), u | .leaf (.number _), u => u.ends
  | .opening .round, .closing .round => false
  | _, _ => true

/-! ## §2. Quoted text. -/

/-- The characters that carry a backslash in quoted text. -/
abbrev textMarks : List Char := ['"', '\'', '\\']

/-- A code in braces is read back. -/
theorem codeInBraces?_code (c : Char) (rest : List Char) :
    codeInBraces? ('\x7b' :: (Nat.toDigits 16 c.toNat ++ '\x7d' :: rest)) = some (c, rest) := by
  have hdigits : ∀ x ∈ Nat.toDigits 16 c.toNat, (x != '\x7d') = true := by
    intro x hx
    obtain ⟨d, hd, rfl⟩ := Text.exists_digit (by decide) hx
    simp [(Text.digitChar_ne_mark hd).2]
  -- six characters hold all digits, and the brace that closes them if there is room
  have htake : ((Nat.toDigits 16 c.toNat ++ '\x7d' :: rest).take 6).takeWhile (· != '\x7d')
      = Nat.toDigits 16 c.toNat := by
    rw [List.take_append, List.take_of_length_le (Text.length_toDigits_code c),
      List.takeWhile_append_of_pos hdigits]
    cases 6 - (Nat.toDigits 16 c.toNat).length <;> simp
  simp only [codeInBraces?, htake, Text.ofHex?_toDigits, List.drop_left]

theorem quotedBody?_escape {α : Type} {escape : Text.EscapeReader α} {plain : Char → Option α}
    {s rest : List Char} {a : α} (h : escape.read s = some (a, rest)) :
    Text.quotedBody? escape plain ('\\' :: s)
      = (Text.quotedBody? escape plain rest).map fun (as, rest) => (a :: as, rest) := by
  rw [Text.quotedBody?]
  split
  next hnone => simp [h] at hnone
  next a' rest' hsome =>
    rw [h] at hsome
    injection hsome with hsome
    injection hsome with ha hrest
    rw [ha, hrest]

/-- **A character of quoted text is read back**, escaped or not. -/
theorem textBody?_escaped (c : Char) (rest : List Char) :
    textBody? ((Text.escaped textMarks c).toList ++ rest)
      = (textBody? rest).map fun (cs, rest) => (c :: cs, rest) := by
  -- each way to escape is one that the reader knows
  have escape {s : List Char} (h : textEscape? s = some (c, rest)) :
      textBody? ('\\' :: s) = (textBody? rest).map fun (cs, rest) => (c :: cs, rest) :=
    quotedBody?_escape h
  unfold Text.escaped
  by_cases hn : c = '\n'
  · subst hn
    exact escape rfl
  by_cases hr : c = '\r'
  · subst hr
    exact escape rfl
  by_cases ht : c = '\t'
  · subst ht
    exact escape rfl
  by_cases h0 : c = '\x00'
  · subst h0
    exact escape rfl
  by_cases hmark : c ∈ textMarks
  · simp only [beq_iff_eq, hn, hr, ht, h0, hmark, if_false, if_true, String.toList_ofList]
    rcases List.mem_cons.1 hmark with rfl | hmark
    · exact escape rfl
    rcases List.mem_cons.1 hmark with rfl | hmark
    · exact escape rfl
    rw [List.mem_singleton.1 hmark] at escape ⊢
    exact escape rfl
  by_cases hhidden : Text.isHidden c = true
  · simp only [beq_iff_eq, hn, hr, ht, h0, hmark, hhidden, if_false, if_true]
    have hcode : (Text.codeEscape c).toList ++ rest
        = '\\' :: 'u' :: '\x7b' :: (Nat.toDigits 16 c.toNat ++ '\x7d' :: rest) := by
      simp [Text.codeEscape, Text.hexadecimal]
    rw [hcode]
    exact escape (codeInBraces?_code c rest)
  · simp only [beq_iff_eq, hn, hr, ht, h0, hmark, hhidden, if_false, Bool.false_eq_true,
      String.toList_singleton, List.singleton_append]
    have hquote : c ≠ '"' := fun h => hmark (by simp [h])
    have hslash : c ≠ '\\' := fun h => hmark (by simp [h])
    unfold textBody?
    rw [Text.quotedBody?.eq_def]
    split <;> simp_all

/-- **Quoted text is read back.** -/
theorem textBody?_quoted (cs rest : List Char) :
    textBody? (cs.flatMap (fun c => (Text.escaped textMarks c).toList) ++ '"' :: rest)
      = some (cs, rest) := by
  induction cs with
  | nil =>
      show textBody? ('"' :: rest) = _
      unfold textBody?
      rw [Text.quotedBody?]
  | cons c cs ih =>
      rw [List.flatMap_cons, List.append_assoc, textBody?_escaped, ih]
      rfl

/-! ## §3. Words and numbers. -/

/-- A letter, digit or underscore is neither a blank nor a mark. -/
theorem solid_of_alphanum {c : Char} (h : (c.isAlphanum || c == '_') = true) :
    isBlank c = false ∧ markToken? c = none ∧ c ∉ ['/', '(', '"', '#', '\''] := by
  refine ⟨?_, ?_, ?_⟩
  · unfold isBlank
    rw [decide_eq_false_iff_not]
    intro hc
    simp only [List.mem_cons, List.not_mem_nil, or_false] at hc
    rcases hc with rfl | rfl | rfl | rfl | rfl | rfl | rfl | rfl | rfl | rfl | rfl <;>
      (revert h; decide)
  · unfold markToken?
    split <;> first | rfl | (revert h; decide)
  · intro hc
    simp only [List.mem_cons, List.not_mem_nil, or_false] at hc
    rcases hc with rfl | rfl | rfl | rfl | rfl <;> (revert h; decide)

/-- What begins with a letter, a digit or an underscore is a word or a number, unless one of the
letters that announce other tokens has something to announce. -/
theorem lexeme?_eq_solid? {c : Char} {s : List Char} (hc : (c.isAlphanum || c == '_') = true)
    (hsecond : ∀ y t, s = y :: t → y ∉ ['"', '#', '\''])
    (hthird : ∀ z t, s = 'r' :: z :: t → z ∉ ['"', '#', '\'']) :
    lexeme? (c :: s) = solid? (c :: s) := by
  obtain ⟨hblank, hmark, hfirst⟩ := solid_of_alphanum hc
  have first {x : Char} {t : List Char} (h : c :: s = x :: t) : x ∉ ['/', '(', '"', '#', '\''] := by
    injection h with h
    rw [← h]
    exact hfirst
  have second {x y : Char} {t : List Char} (h : c :: s = x :: y :: t) : y ∉ ['"', '#', '\''] := by
    injection h with _ h
    exact hsecond y t h
  have third {x z : Char} {t : List Char} (h : c :: s = x :: 'r' :: z :: t) :
      z ∉ ['"', '#', '\''] := by
    injection h with _ h
    exact hthird z t h
  generalize hcs : c :: s = cs
  unfold lexeme?
  split
  case h_1 => cases hcs
  -- the first character rules out what is no letter
  case h_2 | h_3 | h_4 | h_5 | h_6 => exact absurd (by simp) (first hcs)
  -- the second or the third one what an r or a b announces
  case h_7 | h_8 | h_9 | h_10 => exact absurd (by simp) (second hcs)
  case h_11 | h_12 => exact absurd (by simp) (third hcs)
  case h_13 =>
    injection hcs with hfirst hrest
    subst hfirst
    rw [if_neg (by simp [hblank]), hmark]

/-- Whether a text is at its end or goes on with what ends a word or a number. -/
def EndsSolid (rest : List Char) : Prop := ∀ c ∈ rest.head?, c ∈ [',', ':', ')', ']', '\x7d']

section Solid

variable {cs rest : List Char}

/-- Letters, digits and underscores up to an end announce nothing. -/
theorem head_not_mark (hcs : ∀ c ∈ cs, (c.isAlphanum || c == '_') = true) (hrest : EndsSolid rest)
    {y : Char} {t : List Char} (h : cs ++ rest = y :: t) : y ∉ ['"', '#', '\''] := by
  have hy : y ∈ (cs ++ rest).head? := by rw [h]; rfl
  cases cs with
  | nil =>
      have hend := hrest y hy
      simp only [List.mem_cons, List.not_mem_nil, or_false] at hend
      rcases hend with rfl | rfl | rfl | rfl | rfl <;> decide
  | cons c cs =>
      injection h with h _
      subst h
      intro hmark
      exact (solid_of_alphanum (hcs c List.mem_cons_self)).2.2 (by
        simp only [List.mem_cons, List.not_mem_nil, or_false] at hmark ⊢
        rcases hmark with h | h | h <;> simp [h])

/-- A run of characters of a class ends where the class does. -/
theorem span_of_class {p : Char → Bool} (hcs : ∀ c ∈ cs, p c = true)
    (hend : [',', ':', ')', ']', '\x7d'].all (fun c => !p c) = true) (hrest : EndsSolid rest) :
    (cs ++ rest).takeWhile p = cs ∧ (cs ++ rest).dropWhile p = rest := by
  rw [List.takeWhile_append_of_pos hcs, List.dropWhile_append_of_pos hcs]
  cases rest with
  | nil => simp
  | cons c rest =>
      have hc : p c = false := by simpa using List.all_eq_true.1 hend c (hrest c rfl)
      simp [hc]

/-- A word or a number that is plain up to an end is what it is alone. -/
theorem lexeme?_of_solid {c : Char} (hcs : ∀ x ∈ c :: cs, (x.isAlphanum || x == '_') = true)
    (hrest : EndsSolid rest) : lexeme? (c :: (cs ++ rest)) = solid? (c :: (cs ++ rest)) := by
  have htail : ∀ x ∈ cs, (x.isAlphanum || x == '_') = true :=
    fun x hx => hcs x (List.mem_cons_of_mem c hx)
  refine lexeme?_eq_solid? (hcs c List.mem_cons_self) (fun y t h => head_not_mark htail hrest h) ?_
  intro z t h
  cases cs with
  | nil =>
      -- no end is the letter r
      have hend := hrest 'r' (by rw [List.nil_append] at h; rw [h]; rfl)
      exact absurd hend (by decide)
  | cons d ds =>
      injection h with _ h
      exact head_not_mark (fun x hx => htail x (List.mem_cons_of_mem d hx)) hrest h

/-- A letter, digit or underscore is a character of ASCII, where names are made of these. -/
theorem nameClass_of_alphanum {c : Char} (h : (c.isAlphanum || c == '_') = true) :
    Text.isNameRest c = true ∧ Text.isNameStart c = (c.isAlpha || c == '_') := by
  have hascii : c.toNat < 0x80 := by
    simp only [Char.isAlphanum, Char.isAlpha, Char.isUpper, Char.isLower, Char.isDigit,
      Bool.or_eq_true, Bool.and_eq_true, decide_eq_true_eq, beq_iff_eq, UInt32.le_iff_toNat_le,
      ge_iff_le] at h
    have : c.toNat = c.val.toNat := rfl
    rcases h with h | rfl
    · have : 'Z'.val.toNat = 90 := rfl
      have : 'z'.val.toNat = 122 := rfl
      have : '9'.val.toNat = 57 := rfl
      omega
    · decide
  simp only [Text.isNameRest, Text.isNameStart, hascii, if_true, h, and_self]

/-- **A plain word is scanned.** -/
theorem lexeme?_word {name : String} (h : isPlainWord name = true) (hrest : EndsSolid rest) :
    lexeme? (name.toList ++ rest) = some (some (.leaf (.word name)), rest) := by
  unfold isPlainWord at h
  cases hname : name.toList with
  | nil => simp [hname] at h
  | cons c cs =>
      simp only [hname, Bool.and_eq_true, List.all_eq_true] at h
      obtain ⟨hc, hcs⟩ := h
      have hall : ∀ x ∈ c :: cs, (x.isAlphanum || x == '_') = true := by
        intro x hx
        rcases List.mem_cons.1 hx with rfl | hx
        · revert hc
          simp only [Char.isAlphanum, Bool.or_eq_true]
          tauto
        · exact hcs x hx
      have hspan := span_of_class (fun x hx => (nameClass_of_alphanum (hall x hx)).1)
        (by decide) hrest
      have hstart : Text.isNameStart c = true := by
        rw [(nameClass_of_alphanum (hall c List.mem_cons_self)).2, hc]
      rw [List.cons_append, lexeme?_of_solid hall hrest]
      simp only [solid?, hstart, if_true]
      rw [← List.cons_append, hspan.1, hspan.2, ← hname, String.ofList_toList]

/-- What a decimal digit is to the scanner. -/
theorem decimal_digit_class {d : Nat} (h : d < 10) :
    (Nat.digitChar d).isAlphanum = true ∧ (Nat.digitChar d).isDigit = true
      ∧ isNumberMark (Nat.digitChar d) = true ∧ Text.isNameStart (Nat.digitChar d) = false := by
  have all : ∀ d < 10, (Nat.digitChar d).isAlphanum = true ∧ (Nat.digitChar d).isDigit = true
      ∧ isNumberMark (Nat.digitChar d) = true ∧ Text.isNameStart (Nat.digitChar d) = false := by
    decide
  exact all d h

/-- **A number is scanned.** -/
theorem lexeme?_number (n : Nat) (hrest : EndsSolid rest) :
    lexeme? (Nat.toDigits 10 n ++ rest)
      = some (some (.leaf (.number (.integer (.ofNat n) none))), rest) := by
  have hdigit : ∀ x ∈ Nat.toDigits 10 n, x.isAlphanum = true ∧ x.isDigit = true
      ∧ isNumberMark x = true ∧ Text.isNameStart x = false := by
    intro x hx
    obtain ⟨d, hd, rfl⟩ := Text.exists_digit (by decide) hx
    exact decimal_digit_class hd
  have hspan := span_of_class (fun x hx => (hdigit x hx).2.2.1) (by decide) hrest
  have hlexeme := Numeral.ofLexeme?_toDigits n
  generalize hcs : Nat.toDigits 10 n = cs at hdigit hspan hlexeme
  cases cs with
  | nil => exact absurd hcs Nat.toDigits_ne_nil
  | cons c cs =>
      have hall : ∀ x ∈ c :: cs, (x.isAlphanum || x == '_') = true := by
        intro x hx
        rw [(hdigit x hx).1, Bool.true_or]
      obtain ⟨-, hc, -, hstart⟩ := hdigit c List.mem_cons_self
      rw [List.cons_append, lexeme?_of_solid hall hrest]
      simp only [solid?, hstart, hc, Bool.true_or, if_true, Bool.false_eq_true, if_false]
      rw [← List.cons_append, hspan.1, hspan.2, hlexeme]
      rfl

end Solid

/-! ## §4. Tokens. -/

@[simp] theorem spellAll_nil : spellAll [] = "" := rfl

theorem spellAll_cons (t : Token) (ts : List Token) :
    (spellAll (t :: ts)).toList = t.spell.toList ++ (spellAll ts).toList := by
  simp [spellAll, String.toList_join]

/-- A token takes up some text. -/
theorem Token.spell_ne_nil {t : Token} (h : t.isPlain = true) : t.spell.toList ≠ [] := by
  match t, h with
  | .opening b, _ | .closing b, _ => cases b <;> decide
  | .leaf .comma, _ | .leaf .colon, _ | .leaf .unit, _ => decide
  | .leaf (.text s), _ => simp [Token.spell, Leaf.spell, Text.quoted]
  | .leaf (.word name), h =>
      intro hname
      simp only [isPlain, isPlainWord] at h
      rw [show name.toList = [] from hname] at h
      cases h
  | .leaf (.number (.integer (.ofNat n) none)), _ =>
      show (toString (Int.ofNat n)).toList ≠ []
      simp [toString, Int.repr]

/-- A token that ends the one before it begins with an end. -/
theorem endsSolid_spellAll {ts : List Token} (h : ∀ u ∈ ts.head?, u.ends = true) :
    EndsSolid (spellAll ts).toList := by
  cases ts with
  | nil => simp [EndsSolid]
  | cons u ts =>
      have hu : u.ends = true := h u rfl
      rw [spellAll_cons]
      match u, hu with
      | .closing b, _ => cases b <;> simp [EndsSolid, Token.spell, Bracket.closingMark]
      | .leaf .comma, _ | .leaf .colon, _ => simp [EndsSolid, Token.spell, Leaf.spell]

/-- The text of a natural number is its decimal digits. -/
theorem spell_number (n : Nat) :
    (Token.leaf (.number (.integer (.ofNat n) none))).spell.toList = Nat.toDigits 10 n := by
  show (Nat.repr n).toList = _
  exact Nat.toList_repr

/-- Only a closing bracket begins with one. -/
theorem Token.spell_ne_closing {t : Token} (h : t.isPlain = true) (hne : t ≠ .closing .round)
    (cs : List Char) : t.spell.toList ≠ ')' :: cs := by
  match t, h with
  | .opening b, _ => cases b <;> simp [spell, Bracket.openingMark]
  | .closing b, _ =>
      cases b with
      | round => exact absurd rfl hne
      | square | curly => simp [spell, Bracket.closingMark]
  | .leaf .comma, _ | .leaf .colon, _ | .leaf .unit, _ => simp [spell, Leaf.spell]
  | .leaf (.text s), _ => simp [spell, Leaf.spell, Text.quoted]
  | .leaf (.word name), h =>
      intro hname
      simp only [isPlain, isPlainWord] at h
      rw [show name.toList = ')' :: cs from hname] at h
      cases h
  | .leaf (.number (.integer (.ofNat n) none)), _ =>
      intro hn
      rw [spell_number] at hn
      obtain ⟨d, hd, hdigit⟩ := Text.exists_digit (b := 10) (n := n) (by decide)
        (by rw [hn]; exact List.mem_cons_self)
      have hclass := (decimal_digit_class hd).2.1
      rw [← hdigit] at hclass
      cases hclass

/-- A round bracket is scanned by itself unless it is closed at once. -/
theorem lexeme?_round {s : List Char} (h : ∀ cs, s ≠ ')' :: cs) :
    lexeme? ('(' :: s) = some (some (.opening .round), s) := by
  cases s with
  | nil => rfl
  | cons c s =>
      have hc : c ≠ ')' := fun hc => h s (by rw [hc])
      simp [lexeme?, hc, isBlank, markToken?]

/-- **A plain token is scanned where the next one can stand behind it.** -/
theorem lexeme?_spell {t : Token} {ts : List Token} (ht : t.isPlain = true)
    (hts : ∀ u ∈ ts, u.isPlain = true) (hnext : ∀ u ∈ ts.head?, t.parts u = true) :
    lexeme? (t.spell.toList ++ (spellAll ts).toList) = some (some t, (spellAll ts).toList) := by
  match t, ht with
  | .opening .round, _ =>
      refine lexeme?_round fun cs hcs => ?_
      cases ts with
      | nil => cases hcs
      | cons u ts =>
          have hu : u ≠ .closing .round := by
            rintro rfl
            exact absurd (hnext _ rfl) (by decide)
          have hplain := hts u List.mem_cons_self
          rw [spellAll_cons] at hcs
          cases hspell : u.spell.toList with
          | nil => exact Token.spell_ne_nil hplain hspell
          | cons c cs' =>
              rw [hspell] at hcs
              injection hcs with hc _
              exact Token.spell_ne_closing hplain hu cs' (by rw [hspell, hc])
  | .opening .square, _ | .opening .curly, _ | .closing .round, _ | .closing .square, _
  | .closing .curly, _ | .leaf .comma, _ | .leaf .colon, _ | .leaf .unit, _ => rfl
  | .leaf (.text s), _ =>
      have hspell : (Token.leaf (.text s)).spell.toList ++ (spellAll ts).toList
          = '"' :: (s.toList.flatMap (fun c => (Text.escaped textMarks c).toList)
              ++ '"' :: (spellAll ts).toList) := by
        simp [Token.spell, Leaf.spell, Text.quoted, String.toList_join, List.flatMap_map]
      rw [hspell]
      simp only [lexeme?, textBody?_quoted, lexed, Option.map_some, String.ofList_toList]
  | .leaf (.word name), ht => exact lexeme?_word ht (endsSolid_spellAll hnext)
  | .leaf (.number (.integer (.ofNat n) none)), _ =>
      rw [spell_number]
      exact lexeme?_number n (endsSolid_spellAll hnext)

/-! ## §5. Texts. -/

/-- Plain tokens are scanned with any number of lexemes that suffices. -/
theorem scanWithin_spellAll : ∀ (ts : List Token), (∀ t ∈ ts, t.isPlain = true) →
    ts.IsChain (fun t u => t.parts u = true) →
    ∀ fuel, (spellAll ts).toList.length ≤ fuel → scanWithin fuel (spellAll ts).toList = some ts := by
  intro ts
  induction ts with
  | nil =>
      intro _ _ fuel _
      unfold scanWithin
      rfl
  | cons t ts ih =>
      intro hplain hchain fuel hfuel
      have ht := hplain t List.mem_cons_self
      have hts : ∀ u ∈ ts, u.isPlain = true := fun u hu => hplain u (List.mem_cons_of_mem t hu)
      obtain ⟨hnext, hrest⟩ := List.isChain_cons.1 hchain
      rw [spellAll_cons] at hfuel ⊢
      have hlength : 0 < t.spell.toList.length := List.length_pos_iff.2 (Token.spell_ne_nil ht)
      rw [List.length_append] at hfuel
      obtain ⟨fuel, rfl⟩ : ∃ k, fuel = k + 1 := ⟨fuel - 1, by omega⟩
      have hlexeme := lexeme?_spell ht hts hnext
      cases hs : t.spell.toList ++ (spellAll ts).toList with
      | nil => simp [Token.spell_ne_nil ht] at hs
      | cons c s =>
          rw [hs] at hlexeme
          simp only [scanWithin, hlexeme, ih hts hrest fuel (by omega)]
          rfl

/-- **Plain tokens that keep apart are scanned as they were spelled.** -/
theorem scan_spellAll {ts : List Token} (hplain : ∀ t ∈ ts, t.isPlain = true)
    (hchain : ts.IsChain (fun t u => t.parts u = true)) :
    scan (spellAll ts).toList = some ts :=
  scanWithin_spellAll ts hplain hchain _ (Nat.le_refl _)

end TileEvents.Ron
