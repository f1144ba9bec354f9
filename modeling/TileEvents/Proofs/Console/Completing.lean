/-
  TileEvents.Proofs.Console.Completing
  ────────────────────────────────────
  **COMPLETION EDITS THE FIRST WORD ONLY.**

  At a cursor behind blanks and the beginning of one word, a completion begins
  where the blanks end, and what it offers are the keywords that begin with the
  lower case of what is typed.  A keyword that is taken stands behind the same
  blanks and before the same rest of the line.  Where something is typed, more
  of it brings no new keyword, and behind a further blank nothing is offered.

  Lower case is a matter of all of Unicode: a letter may become several, and
  the last sigma of a word another than one within it.  For keywords of ASCII
  letters it is enough to know the ASCII letters and the Kelvin sign, so the
  statement holds of every `LowerCase`.

    • `LowerCase.text_prefix_iff`  — which lower case is meant does not matter;
    • `mem_candidates`             — the keywords that are offered;
    • `before_cursor`              — characters and bytes before a cursor;
    • `typedWord_of_split`         — the word at the cursor;
    • `accept_of_split`            — the line with a keyword taken;
    • `completes_first_word_only`  — all of it for every line and cursor.
-/
import Mathlib.Data.List.TakeWhile
import Mathlib.Data.String.Basic
import TileEvents.Completion
import TileEvents.Proofs.Text.Letters

namespace TileEvents.Completion

open Text

/-! ## §1. Lower case. -/

/-- All but the Kelvin sign are lowered as ASCII letters are. -/
theorem lower_of_ne {c : Char} (h : c ≠ '\u212a') : lower c = c.toLower := by
  rw [lower, beq_eq_false_iff_ne.2 h]
  rfl

/-- **A lower case of texts**: what becomes of a character between the text before it and the text
behind it.  An ASCII character becomes its own lower case and the Kelvin sign the letter k; any other
becomes one or more characters that are not all ASCII.  Unicode's lower case is one of these. -/
structure LowerCase where
  /-- What becomes of a character, between the text before it and the text behind it. -/
  letter : List Char → Char → List Char → List Char
  ascii : ∀ before c behind, c.toNat < 128 → letter before c behind = [c.toLower]
  kelvin : ∀ before behind, letter before '\u212a' behind = ['k']
  beyond : ∀ before c behind, 128 ≤ c.toNat → c ≠ '\u212a' →
    ∃ d ∈ letter before c behind, 128 ≤ d.toNat

namespace LowerCase

variable (l : LowerCase)

/-- The lower case of a text that stands behind another. -/
def textBehind : List Char → List Char → List Char
  | _, [] => []
  | before, c :: behind => l.letter before c behind ++ textBehind (before ++ [c]) behind

/-- The lower case of a text. -/
def text (s : List Char) : List Char := l.textBehind [] s

/-- The least of all: what is neither an ASCII letter nor the Kelvin sign stays as it is. -/
def plain : LowerCase where
  letter _ c _ := [lower c]
  ascii := by
    intro _ c _ h
    have hkelvin : c ≠ '\u212a' := by
      rintro rfl
      exact absurd h (by decide)
    rw [lower_of_ne hkelvin]
  kelvin := fun _ _ => rfl
  beyond := by
    intro _ c _ h hkelvin
    refine ⟨c, ?_, h⟩
    rw [lower_of_ne hkelvin, toLower_of_le h]
    exact List.mem_singleton_self c

theorem plain_text (s : List Char) : plain.text s = s.map lower := by
  have hbehind : ∀ before, plain.textBehind before s = s.map lower := by
    induction s with
    | nil => exact fun _ => rfl
    | cons c s ih => exact fun before => congrArg (lower c :: ·) (ih (before ++ [c]))
  exact hbehind []

/-- Where a character does not become what `lower` says, neither is ASCII. -/
theorem letter_cases (before : List Char) (c : Char) (behind : List Char) :
    l.letter before c behind = [lower c]
      ∨ (∃ d ∈ l.letter before c behind, 128 ≤ d.toNat) ∧ 128 ≤ (lower c).toNat := by
  by_cases hkelvin : c = '\u212a'
  · rw [hkelvin]
    exact .inl (l.kelvin before behind)
  rw [lower_of_ne hkelvin]
  rcases Nat.lt_or_ge c.toNat 128 with hascii | hbeyond
  · exact .inl (l.ascii before c behind hascii)
  · refine .inr ⟨l.beyond before c behind hbeyond hkelvin, ?_⟩
    rwa [toLower_of_le hbeyond]

/-- An ASCII text begins with the lower case of another if it begins with what `lower` makes of it. -/
theorem textBehind_prefix_iff {s : List Char} :
    ∀ {term : List Char}, (∀ c ∈ term, c.toNat < 128) → ∀ before,
      (l.textBehind before s <+: term ↔ s.map lower <+: term) := by
  induction s with
  | nil =>
      intro term _ before
      exact iff_of_true List.nil_prefix List.nil_prefix
  | cons c s ih =>
      intro term hterm before
      rw [textBehind, List.map_cons]
      rcases l.letter_cases before c s with hone | ⟨⟨d, hd, hbeyond⟩, hlower⟩
      · -- one character on both sides, and the texts behind it as before
        rw [hone, List.singleton_append]
        cases term with
        | nil => simp
        | cons b term =>
            rw [List.cons_prefix_cons, List.cons_prefix_cons,
              ih (fun c hc => hterm c (List.mem_cons_of_mem b hc))]
      · -- on both sides there is a character that no ASCII text has
        refine iff_of_false ?_ ?_
        · intro hprefix
          have hmem := hprefix.mem (List.mem_append_left _ hd)
          exact absurd (hterm d hmem) (Nat.not_lt.2 hbeyond)
        · intro hprefix
          have hmem := hprefix.mem List.mem_cons_self
          exact absurd (hterm (lower c) hmem) (Nat.not_lt.2 hlower)

/-- **Which lower case is meant does not matter** to the ASCII texts that begin with it. -/
theorem text_prefix_iff {s term : List Char} (hterm : ∀ c ∈ term, c.toNat < 128) :
    l.text s <+: term ↔ s.map lower <+: term :=
  l.textBehind_prefix_iff hterm []

end LowerCase

/-! ## §2. What is offered. -/

/-- The keywords are ASCII texts. -/
theorem ascii_of_mem_terms {t : String} (h : t ∈ terms) : ∀ c ∈ t.toList, c.toNat < 128 := by
  have hall : terms.all (fun t => t.toList.all (·.toNat < 128)) = true := by decide +kernel
  intro c hc
  simpa using List.all_eq_true.1 (List.all_eq_true.1 hall t h) c hc

theorem terms_ascending : terms.Pairwise (· < ·) := by decide +kernel

/-- **The keywords that are offered** begin with the lower case of what is typed. -/
theorem mem_candidates (l : LowerCase) {typed : List Char} {t : String} :
    t ∈ candidates typed ↔ typed ≠ [] ∧ t ∈ terms ∧ l.text typed <+: t.toList := by
  unfold candidates
  cases typed with
  | nil => simp
  | cons c typed =>
      rw [List.isEmpty_cons, if_neg Bool.false_ne_true, List.mem_filter,
        List.isPrefixOf_iff_prefix, and_iff_right (List.cons_ne_nil c typed)]
      refine and_congr_right fun ht => ?_
      exact (l.text_prefix_iff (ascii_of_mem_terms ht)).symm

/-- They are offered in ascending order. -/
theorem candidates_ascending (typed : List Char) : (candidates typed).Pairwise (· < ·) := by
  unfold candidates
  split
  · exact .nil
  · exact terms_ascending.filter _

/-- **Typing more brings no new keyword.** -/
theorem mem_candidates_of_append {typed more : List Char} {t : String} (hne : typed ≠ [])
    (h : t ∈ candidates (typed ++ more)) : t ∈ candidates typed := by
  obtain ⟨-, ht, hprefix⟩ := (mem_candidates .plain).1 h
  rw [LowerCase.plain_text, List.map_append] at hprefix
  refine (mem_candidates .plain).2 ⟨hne, ht, ?_⟩
  rw [LowerCase.plain_text]
  exact (List.prefix_append _ _).trans hprefix

/-! ## §3. Characters and bytes. -/

theorem byteLength_eq (s : List Char) : byteLength s = String.utf8Len s := by
  induction s with
  | nil => rfl
  | cons c s ih => rw [byteLength, ih, String.utf8Len_cons, Nat.add_comm]

/-- The bytes of a text are those of its characters. -/
theorem byteLength_toList (s : String) : byteLength s.toList = s.utf8ByteSize := by
  rw [byteLength_eq, String.utf8Len_toList]

/-- Before the byte where a text ends stand its characters. -/
theorem before_append (front rest : List Char) :
    before (byteLength front) (front ++ rest) = front := by
  induction front with
  | nil =>
      cases rest with
      | nil => rfl
      | cons c rest =>
          have hsize : ¬ c.utf8Size ≤ 0 := Nat.not_le.2 c.utf8Size_pos
          exact if_neg hsize
  | cons c front ih =>
      rw [List.cons_append, byteLength, before, if_pos (Nat.le_add_right _ _),
        Nat.add_sub_cancel_left, ih]

variable {line front rest blanks typed : String} {cursor : line.Pos}

/-- A cursor stands behind as many bytes as the text before it takes. -/
theorem byteIdx_cursor (h : cursor.Splits front rest) :
    cursor.offset.byteIdx = front.utf8ByteSize := by
  rw [h.offset_eq_rawEndPos]
  rfl

/-- **The characters before a cursor.** -/
theorem before_cursor (h : cursor.Splits front rest) :
    before cursor.offset.byteIdx line.toList = front.toList := by
  rw [byteIdx_cursor h, ← byteLength_toList, congrArg String.toList h.eq_append,
    String.toList_append, before_append]

/-- The text between two places of a line, given in bytes. -/
theorem extract_middle (front middle rest : String) :
    String.Pos.Raw.extract (front ++ (middle ++ rest)) ⟨front.utf8ByteSize⟩
      ⟨front.utf8ByteSize + middle.utf8ByteSize⟩ = middle := by
  have hextract := String.extract_of_valid front.toList middle.toList rest.toList
  simpa [String.utf8Len_toList] using hextract

/-! ## §4. The word at the cursor. -/

/-- **At the first word**: behind the blanks it begins with, the text has no other. -/
def AtFirstWord (front : String) : Prop := ∀ c ∈ front.toList.dropWhile isBlank, isBlank c = false

instance (front : String) : Decidable (AtFirstWord front) := List.decidableBAll _ _

/-- Such a text is blanks and the beginning of a word. -/
theorem AtFirstWord.exists_split (h : AtFirstWord front) :
    ∃ blanks typed : String, front = blanks ++ typed
      ∧ (∀ c ∈ blanks.toList, isBlank c = true) ∧ ∀ c ∈ typed.toList, isBlank c = false := by
  refine ⟨.ofList (front.toList.takeWhile isBlank), .ofList (front.toList.dropWhile isBlank),
    ?_, ?_, ?_⟩
  · rw [← String.ofList_append, List.takeWhile_append_dropWhile, String.ofList_toList]
  · rw [String.toList_ofList]
    exact fun c hc => List.mem_takeWhile_imp hc
  · rw [String.toList_ofList]
    exact h

/-- The blanks before a word are dropped, and no more. -/
theorem dropWhile_blanks_append {blanks word : List Char} (hblanks : ∀ c ∈ blanks, isBlank c = true)
    (hword : ∀ c ∈ word.head?, isBlank c = false) : (blanks ++ word).dropWhile isBlank = word := by
  rw [List.dropWhile_append_of_pos hblanks, dropWhile_eq_self hword]

/-- **The word at the cursor** is what is typed behind the blanks. -/
theorem typedWord_of_split (h : cursor.Splits (blanks ++ typed) rest)
    (hblanks : ∀ c ∈ blanks.toList, isBlank c = true)
    (htyped : ∀ c ∈ typed.toList, isBlank c = false) :
    typedWord line.toList cursor.offset.byteIdx = (blanks.utf8ByteSize, typed.toList) := by
  have hword : (before cursor.offset.byteIdx line.toList).dropWhile isBlank = typed.toList := by
    rw [before_cursor h, String.toList_append]
    exact dropWhile_blanks_append hblanks fun c hc => htyped c (List.mem_of_mem_head? hc)
  have hnone : typed.toList.any isBlank = false := by simpa using htyped
  rw [typedWord, hword, hnone, byteIdx_cursor h, byteLength_toList, String.utf8ByteSize_append,
    Nat.add_sub_cancel]
  rfl

/-- **Behind the first word** there is no word to complete. -/
theorem typedWord_of_behind (h : cursor.Splits front rest) (hfront : ¬ AtFirstWord front) :
    typedWord line.toList cursor.offset.byteIdx = (cursor.offset.byteIdx, []) := by
  have hblank : (front.toList.dropWhile isBlank).any isBlank = true := by
    simpa [AtFirstWord] using hfront
  rw [typedWord, before_cursor h, hblank]
  rfl

theorem complete_eq {line : String} {position start : Nat} {typed : List Char}
    (h : typedWord line.toList position = (start, typed)) :
    complete line position = (start, candidates typed) := by
  rw [complete, h]

/-- What is typed more, still at the first word, belongs to the same word. -/
theorem AtFirstWord.solid_of_longer {more : String} (h : AtFirstWord (blanks ++ typed ++ more))
    (hblanks : ∀ c ∈ blanks.toList, isBlank c = true)
    (htyped : ∀ c ∈ typed.toList, isBlank c = false) (hne : typed.toList ≠ []) :
    ∀ c ∈ (typed ++ more).toList, isBlank c = false := by
  have hdrop : (blanks ++ typed ++ more).toList.dropWhile isBlank = (typed ++ more).toList := by
    rw [String.append_assoc, String.toList_append]
    refine dropWhile_blanks_append hblanks ?_
    intro c hc
    rw [String.toList_append, List.head?_append, List.head?_eq_some_head hne] at hc
    exact htyped c (List.mem_of_mem_head? ((List.head?_eq_some_head hne).trans hc))
  rw [← hdrop]
  exact h

/-- **At a later cursor no new keyword is offered**, in the word or behind it. -/
theorem mem_candidates_of_longer {more t : String} (h : cursor.Splits (blanks ++ typed ++ more) rest)
    (hblanks : ∀ c ∈ blanks.toList, isBlank c = true)
    (htyped : ∀ c ∈ typed.toList, isBlank c = false) (hne : typed.toList ≠ [])
    (ht : t ∈ (complete line cursor.offset.byteIdx).2) : t ∈ candidates typed.toList := by
  by_cases hfirst : AtFirstWord (blanks ++ typed ++ more)
  · have hword := hfirst.solid_of_longer hblanks htyped hne
    rw [String.append_assoc] at h
    rw [complete_eq (typedWord_of_split h hblanks hword), String.toList_append] at ht
    exact mem_candidates_of_append hne ht
  · rw [complete_eq (typedWord_of_behind h hfirst)] at ht
    cases ht

/-! ## §5. Taking a keyword. -/

/-- **The line with a keyword taken**, and where the cursor goes: the keyword replaces the bytes from
where the completion begins up to the cursor, and the cursor stands behind it. -/
def accept (line : String) (position : Nat) (keyword : String) : String × Nat :=
  let start := (complete line position).1
  (String.Pos.Raw.extract line 0 ⟨start⟩ ++ keyword
      ++ String.Pos.Raw.extract line ⟨position⟩ line.rawEndPos,
    start + keyword.utf8ByteSize)

/-- **Only the word at the cursor is replaced**, up to the cursor. -/
theorem accept_of_split (h : cursor.Splits (blanks ++ typed) rest)
    (hblanks : ∀ c ∈ blanks.toList, isBlank c = true)
    (htyped : ∀ c ∈ typed.toList, isBlank c = false) (keyword : String) :
    accept line cursor.offset.byteIdx keyword
      = (blanks ++ keyword ++ rest, (blanks ++ keyword).utf8ByteSize) := by
  have hfront : String.Pos.Raw.extract line 0 ⟨blanks.utf8ByteSize⟩ = blanks := by
    have hextract := extract_middle "" blanks (typed ++ rest)
    rw [String.empty_append, ← String.append_assoc, ← h.eq_append] at hextract
    simpa using hextract
  have hrest : String.Pos.Raw.extract line ⟨cursor.offset.byteIdx⟩ line.rawEndPos = rest := by
    have hextract := extract_middle (blanks ++ typed) rest ""
    rw [String.append_empty, ← h.eq_append, ← byteIdx_cursor h] at hextract
    have hend : line.rawEndPos = ⟨cursor.offset.byteIdx + rest.utf8ByteSize⟩ := by
      rw [byteIdx_cursor h, ← String.utf8ByteSize_append, ← h.eq_append]
      rfl
    rwa [hend]
  rw [accept, complete_eq (typedWord_of_split h hblanks htyped), hfront, hrest,
    String.utf8ByteSize_append]

/-! ## §6. The whole of it. -/

/-- **Completion edits the first word only.**  Let the cursor stand between two characters of a line,
and take any lower case.  If the text before the cursor has no blank behind those it begins with, it
is blanks and the beginning of a word: the completion begins where the blanks end, the word is what
stands from there to the cursor, and the keywords offered, in ascending order, are those that begin
with the lower case of the word, or none if it is empty.  A keyword that is taken stands behind the
same blanks, with the cursor behind it and the same rest of the line.  What is offered after more has
been typed begins with the lower case of the word too, so it was offered before unless the word is
empty.  If there is a further blank before the cursor, nothing is offered. -/
theorem completes_first_word_only (l : LowerCase) {line front rest : String} {cursor : line.Pos}
    (h : cursor.Splits front rest) :
    (AtFirstWord front →
        ∃ (blanks typed : String) (start : line.Pos) (offered : List String),
          front = blanks ++ typed ∧ (∀ c ∈ blanks.toList, isBlank c = true)
          ∧ (∀ c ∈ typed.toList, isBlank c = false)
          ∧ start.Splits blanks (typed ++ rest)
          ∧ typedWord line.toList cursor.offset.byteIdx = (start.offset.byteIdx, typed.toList)
          ∧ complete line cursor.offset.byteIdx = (start.offset.byteIdx, offered)
          ∧ (∀ t, t ∈ offered ↔ typed ≠ "" ∧ t ∈ terms ∧ l.text typed.toList <+: t.toList)
          ∧ offered.Pairwise (· < ·)
          ∧ (∀ t ∈ offered, accept line cursor.offset.byteIdx t
              = (blanks ++ t ++ rest, (blanks ++ t).utf8ByteSize))
          ∧ ∀ (longer more rest' : String) (later : longer.Pos), later.Splits (front ++ more) rest' →
              ∀ t ∈ (complete longer later.offset.byteIdx).2,
                l.text typed.toList <+: t.toList ∧ (typed ≠ "" → t ∈ offered))
      ∧ (¬ AtFirstWord front →
          complete line cursor.offset.byteIdx = (cursor.offset.byteIdx, [])) := by
  constructor
  · intro hfirst
    obtain ⟨blanks, typed, rfl, hblanks, htyped⟩ := hfirst.exists_split
    have hline : line = blanks ++ (typed ++ rest) := by
      rw [← String.append_assoc]
      exact h.eq_append
    have hstart := String.Pos.splits_ofEqAppend hline
    have hword := typedWord_of_split h hblanks htyped
    rw [← byteIdx_cursor hstart] at hword
    have hnil : typed.toList = [] ↔ typed = "" := String.toList_eq_nil_iff
    refine ⟨blanks, typed, _, _, rfl, hblanks, htyped, hstart, hword, complete_eq hword, ?_,
      candidates_ascending _, fun t _ => accept_of_split h hblanks htyped t, ?_⟩
    · intro t
      rw [mem_candidates l, Ne, hnil]
    · intro longer more rest' later hlater t ht
      have hoffered (hne : typed ≠ "") : t ∈ candidates typed.toList :=
        mem_candidates_of_longer hlater hblanks htyped (mt hnil.1 hne) ht
      refine ⟨?_, hoffered⟩
      by_cases hempty : typed = ""
      · rw [hempty]
        exact List.nil_prefix
      · exact ((mem_candidates l).1 (hoffered hempty)).2.2
  · intro hbehind
    exact complete_eq (typedWord_of_behind h hbehind)

/-- Behind a wide blank, capitals and the Kelvin sign are completed in their place; behind the next
blank nothing is. -/
theorem completes_first_word_only_unlock :
    let line := "\u3000UNLOC\u212a 1"
    ∃ within behind : line.Pos,
      (within.Splits "\u3000UNLOC\u212a" " 1" ∧ AtFirstWord "\u3000UNLOC\u212a"
          ∧ complete line within.offset.byteIdx = (3, ["unlock"])
          ∧ accept line within.offset.byteIdx "unlock" = ("\u3000unlock 1", 9))
        ∧ behind.Splits line "" ∧ ¬ AtFirstWord line
        ∧ complete line behind.offset.byteIdx = (13, []) := by
  intro line
  have hwithin := String.Pos.splits_ofEqAppend (show line = "\u3000UNLOC\u212a" ++ " 1" from rfl)
  have hbehind := String.Pos.splits_ofEqAppend (show line = line ++ "" from rfl)
  have hfirst : AtFirstWord "\u3000UNLOC\u212a" := by decide +kernel
  have hline : ¬ AtFirstWord line := by decide +kernel
  have hnone := (completes_first_word_only .plain hbehind).2 hline
  obtain ⟨blanks, typed, start, offered, hfront, -, -, -, hword, hcomplete, -, -, haccept, -⟩ :=
    (completes_first_word_only .plain hwithin).1 hfirst
  have htyped : typed = "UNLOC\u212a" := by
    have hword' : typedWord line.toList 11 = (3, "UNLOC\u212a".toList) := by decide +kernel
    exact String.toList_inj.1 (Prod.mk.inj (hword.symm.trans hword')).2
  have hblanks : blanks = "\u3000" := by
    rw [htyped, show "\u3000UNLOC\u212a" = "\u3000" ++ "UNLOC\u212a" from rfl] at hfront
    exact ((String.append_left_inj _).1 hfront).symm
  have hunlock : complete line 11 = (3, ["unlock"]) := by decide +kernel
  have hoffered : offered = ["unlock"] := (Prod.mk.inj (hcomplete.symm.trans hunlock)).2
  refine ⟨_, _, ⟨hwithin, hfirst, hunlock, ?_⟩, hbehind, hline, hnone⟩
  rw [haccept "unlock" (by rw [hoffered]; exact List.mem_singleton_self _), hblanks]
  decide +kernel

end TileEvents.Completion
