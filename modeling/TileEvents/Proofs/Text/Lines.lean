/-
  TileEvents.Proofs.Text.Lines
  ────────────────────────────
  **LINES OF INPUT.**

  An input is cut at its line feeds, and nothing is lost or doubled: put
  together again, the lines are the input, up to a line feed that its last
  line may lack.  Carriage returns at the end of a line decide neither whether
  it is a text nor what it says.

    • `byteLines_lineFeed`     — a line feed ends a line;
    • `flatMap_byteLines`      — the lines put together again;
    • `decode?_eq_some`        — a text is the bytes of its characters;
    • `decode?_append_return`  — a carriage return more;
    • `words_append_blank`     — a blank more.
-/
import Mathlib
import TileEvents.Console.Dialogue
import TileEvents.Proofs.Text.Words

namespace TileEvents.Text

/-! ## §1. Cutting at line feeds. -/

/-- The line feed. -/
abbrev lineFeed : UInt8 := 10

/-- A line feed ends a line. -/
theorem byteLines_lineFeed {line : List UInt8} (h : lineFeed ∉ line) (rest : List UInt8) :
    byteLines (line ++ lineFeed :: rest) = line :: byteLines rest := by
  induction line with
  | nil => rfl
  | cons b line ih =>
      have hb : b ≠ lineFeed := fun hb => h (by rw [hb]; exact List.mem_cons_self)
      have hline := ih fun hmem => h (List.mem_cons_of_mem b hmem)
      rw [List.cons_append, byteLines, if_neg hb, hline]

/-- What is not ended is a line if it is there at all. -/
theorem byteLines_last {line : List UInt8} (h : lineFeed ∉ line) (hne : line ≠ []) :
    byteLines line = [line] := by
  induction line with
  | nil => exact absurd rfl hne
  | cons b line ih =>
      have hb : b ≠ lineFeed := fun hb => h (by rw [hb]; exact List.mem_cons_self)
      rw [byteLines, if_neg hb]
      cases line with
      | nil => rfl
      | cons b' line =>
          rw [ih (fun hmem => h (List.mem_cons_of_mem b hmem)) (List.cons_ne_nil b' line)]

/-- Lines that are ended, and one that need not be. -/
def joinLines (lines : List (List UInt8)) (last : List UInt8) : List UInt8 :=
  lines.flatMap (· ++ [lineFeed]) ++ last

theorem joinLines_cons (line : List UInt8) (lines : List (List UInt8)) (last : List UInt8) :
    joinLines (line :: lines) last = line ++ lineFeed :: joinLines lines last := by
  simp [joinLines]

theorem joinLines_concat (lines : List (List UInt8)) (line : List UInt8) :
    joinLines (lines ++ [line]) [] = joinLines lines line ++ [lineFeed] := by
  simp [joinLines]

/-- **Lines that were joined are cut apart again.** -/
theorem byteLines_joinLines {lines : List (List UInt8)} {last : List UInt8}
    (hlines : ∀ line ∈ lines, lineFeed ∉ line) (hlast : lineFeed ∉ last) :
    byteLines (joinLines lines last) = lines ++ if last = [] then [] else [last] := by
  induction lines with
  | nil =>
      show byteLines last = _
      by_cases hne : last = []
      · rw [hne]
        rfl
      · rw [byteLines_last hlast hne, if_neg hne]
        rfl
  | cons line lines ih =>
      have hrest := ih fun l hl => hlines l (List.mem_cons_of_mem line hl)
      rw [joinLines_cons, byteLines_lineFeed (hlines line List.mem_cons_self), hrest]
      rfl

/-- **Every input is made of lines.** -/
theorem exists_lines (input : List UInt8) :
    ∃ lines last, (∀ line ∈ lines, lineFeed ∉ line) ∧ lineFeed ∉ last
      ∧ input = joinLines lines last := by
  induction input with
  | nil => exact ⟨[], [], by simp, by simp, rfl⟩
  | cons b rest ih =>
      obtain ⟨lines, last, hlines, hlast, rfl⟩ := ih
      by_cases hb : b = lineFeed
      · refine ⟨[] :: lines, last, ?_, hlast, ?_⟩
        · simpa using hlines
        · rw [hb, joinLines_cons]
          rfl
      have hnew (line : List UInt8) (h : lineFeed ∉ line) : lineFeed ∉ b :: line := by
        rw [List.mem_cons, not_or]
        exact ⟨fun h => hb h.symm, h⟩
      -- the byte belongs to the first line there is
      cases lines with
      | nil => exact ⟨[], b :: last, by simp, hnew last hlast, rfl⟩
      | cons line lines =>
          rw [List.forall_mem_cons] at hlines
          refine ⟨(b :: line) :: lines, last, ?_, hlast, ?_⟩
          · rw [List.forall_mem_cons]
            exact ⟨hnew line hlines.1, hlines.2⟩
          · rw [joinLines_cons, joinLines_cons]
            rfl

/-- No line holds a line feed. -/
theorem lineFeed_notMem_byteLines (input : List UInt8) :
    ∀ line ∈ byteLines input, lineFeed ∉ line := by
  obtain ⟨lines, last, hlines, hlast, rfl⟩ := exists_lines input
  rw [byteLines_joinLines hlines hlast]
  intro line hline
  rcases List.mem_append.1 hline with hline | hline
  · exact hlines line hline
  · by_cases hne : last = []
    · rw [if_pos hne] at hline
      cases hline
    · rw [if_neg hne, List.mem_singleton] at hline
      rwa [hline]

/-- **The lines put together again are the input**, up to a line feed that its end may lack. -/
theorem joinLines_byteLines (input : List UInt8) :
    joinLines (byteLines input) [] = input
      ∨ joinLines (byteLines input) [] = input ++ [lineFeed] := by
  obtain ⟨lines, last, hlines, hlast, rfl⟩ := exists_lines input
  rw [byteLines_joinLines hlines hlast]
  by_cases hne : last = []
  · rw [if_pos hne, List.append_nil, hne]
    exact .inl rfl
  · rw [if_neg hne, joinLines_concat]
    exact .inr rfl

/-- A line feed at the end ends the last line, or a line with nothing on it. -/
theorem byteLines_append_lineFeed (input : List UInt8) :
    byteLines (input ++ [lineFeed]) = byteLines input
      ∨ byteLines (input ++ [lineFeed]) = byteLines input ++ [[]] := by
  obtain ⟨lines, last, hlines, hlast, rfl⟩ := exists_lines input
  have hended : ∀ line ∈ lines ++ [last], lineFeed ∉ line := by
    intro line hline
    rcases List.mem_append.1 hline with hline | hline
    · exact hlines line hline
    · rwa [List.mem_singleton.1 hline]
  rw [← joinLines_concat, byteLines_joinLines hended List.not_mem_nil,
    byteLines_joinLines hlines hlast, if_pos rfl, List.append_nil]
  by_cases hne : last = []
  · rw [if_pos hne, List.append_nil, hne]
    exact .inr rfl
  · rw [if_neg hne]
    exact .inl rfl

/-! ## §2. Texts and carriage returns. -/

/-- The carriage return. -/
abbrev carriageReturn : UInt8 := 13

/-- **A text is the bytes of its characters.** -/
theorem decode?_eq_some {bytes : List UInt8} {text : String} :
    Utf8.decode? bytes = some text ↔ text.toList.flatMap Utf8.encode = bytes := by
  have hbytes : text.toByteArray = ⟨bytes.toArray⟩ ↔ text.toList.flatMap Utf8.encode = bytes := by
    rw [← String.utf8Encode_toList, ByteArray.ext_iff]
    show (text.toList.flatMap Utf8.encode).toByteArray.data = bytes.toArray ↔ _
    rw [List.data_toByteArray]
    simp
  rw [← hbytes]
  unfold Utf8.decode? String.fromUTF8?
  split
  next h =>
    rw [Option.some_inj, ← String.toByteArray_inj]
    exact eq_comm
  next h =>
    constructor
    · intro hnone
      cases hnone
    · intro htext
      rw [← htext] at h
      exact absurd text.isValidUTF8 h

/-- Characters with the same bytes are the same. -/
theorem encode_inj {c d : Char} (h : Utf8.encode c = Utf8.encode d) : c = d := by
  have hbytes : [c].utf8Encode = [d].utf8Encode := by
    rw [List.utf8Encode_singleton, List.utf8Encode_singleton]
    exact congrArg List.toByteArray h
  have hdecoded := congrArg (ByteArray.utf8DecodeChar? · 0) hbytes
  simpa using hdecoded

/-- Only the carriage return is encoded with this byte at the end. -/
theorem encode_eq_concat_return {c : Char} {bytes : List UInt8}
    (h : Utf8.encode c = bytes ++ [carriageReturn]) : bytes = [] ∧ c = '\r' := by
  have hlength : bytes.length < (String.utf8EncodeChar c).length := by
    show bytes.length < (Utf8.encode c).length
    simp [h]
  have hlast : (String.utf8EncodeChar c)[bytes.length] = carriageReturn := by
    show (Utf8.encode c)[bytes.length] = carriageReturn
    simp [h]
  -- this byte begins a character, so no other byte of the character stands before it
  have hmark : UInt8.IsUTF8FirstByte (String.utf8EncodeChar c)[bytes.length] := by
    rw [hlast]
    decide
  have hfirst : bytes.length = 0 := UInt8.isUTF8FirstByte_getElem_utf8EncodeChar.1 hmark
  have hnil := List.length_eq_zero_iff.1 hfirst
  rw [hnil] at h
  exact ⟨hnil, encode_inj h⟩

/-- **A carriage return more makes no text of what is none**, and one character more of a text. -/
theorem decode?_append_return (bytes : List UInt8) :
    Utf8.decode? (bytes ++ [carriageReturn]) = (Utf8.decode? bytes).map (· ++ "\r") := by
  refine Option.ext fun text => ?_
  rw [decode?_eq_some, Option.map_eq_some_iff]
  constructor
  · intro h
    rcases List.eq_nil_or_concat text.toList with hnil | ⟨cs, c, hcs⟩
    · simp [hnil] at h
    rw [List.concat_eq_append] at hcs
    -- the last character holds the last byte
    obtain ⟨init, b, hc⟩ : ∃ init b, Utf8.encode c = init ++ [b] := by
      have hne : Utf8.encode c ≠ [] := by
        have hpos := c.utf8Size_pos
        rw [← List.length_pos_iff]
        show 0 < (String.utf8EncodeChar c).length
        rwa [String.length_utf8EncodeChar]
      exact ⟨_, _, (List.dropLast_concat_getLast hne).symm⟩
    rw [hcs, List.flatMap_append, List.flatMap_singleton, hc, ← List.append_assoc] at h
    obtain ⟨hfront, hb⟩ := List.append_inj' h rfl
    rw [hb] at hc
    obtain ⟨rfl, rfl⟩ := encode_eq_concat_return hc
    rw [List.append_nil] at hfront
    refine ⟨String.ofList cs, ?_, ?_⟩
    · rw [decode?_eq_some, String.toList_ofList, hfront]
    · rw [← String.toList_inj, hcs, String.toList_append, String.toList_ofList]
      rfl
  · rintro ⟨front, hfront, rfl⟩
    rw [decode?_eq_some] at hfront
    rw [String.toList_append, List.flatMap_append, hfront]
    rfl

/-! ## §3. Words and blanks. -/

/-- A blank at the end is no part of a word. -/
theorem words_append_blank {c : Char} (h : isBlank c = true) (s : List Char) :
    words (s ++ [c]) = words s := by
  rw [words_append_blank_cons h]
  exact List.append_nil (words s)

theorem isBlankText_append_blank {c : Char} (h : isBlank c = true) (s : List Char) :
    isBlankText (s ++ [c]) = isBlankText s := by
  simp [isBlankText, h]

end TileEvents.Text
