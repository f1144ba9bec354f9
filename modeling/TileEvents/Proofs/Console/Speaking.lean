/-
  TileEvents.Proofs.Console.Speaking
  ──────────────────────────────────
  **WHICH WORDS OF A DICTIONARY A PLAYER CAN SPEAK.**

  What a player says at the console is cut into words and put together again
  with single spaces, while a word of the dictionary is taken as it stands.  So
  a word can be spoken exactly if it is not empty and is its own words joined
  by single spaces: a riddle whose only answers are others cannot be solved.
  A word that can be spoken is accepted in any case of its letters and with any
  blanks around and between its words.

    • `Speakable`                  — a word that can be spoken;
    • `speakable_iff`              — it is some words joined by single spaces;
    • `Speakable.of_lower_eq`      — and so it is in any other case;
    • `exists_line_iff_speakable`  — the words that some line says, and the
                                     lines that say them.
-/
import TileEvents.Proofs.Console.Grammar
import TileEvents.Proofs.Text.Hearing

namespace TileEvents

open Text

/-! ## §1. Words that can be spoken. -/

/-- **A word that can be spoken** is its own words joined by single spaces, and there are some. -/
def Speakable (word : String) : Prop :=
  word ≠ "" ∧ word = String.intercalate " " ((words word.toList).map String.ofList)

instance (word : String) : Decidable (Speakable word) := instDecidableAnd

theorem toList_join (ws : List String) :
    (String.intercalate " " ws).toList = [' '].intercalate (ws.map String.toList) :=
  String.toList_intercalate

/-- It is some words joined by single spaces. -/
theorem speakable_iff {word : String} :
    Speakable word
      ↔ ∃ ws, ws ≠ [] ∧ (∀ w ∈ ws, Solid w.toList) ∧ word = String.intercalate " " ws := by
  constructor
  · rintro ⟨hne, hjoin⟩
    have hsays : Says word ((words word.toList).map String.ofList) := says_iff.2 rfl
    refine ⟨_, ?_, hsays.solid, hjoin⟩
    intro hnone
    rw [hnone] at hjoin
    exact hne hjoin
  · rintro ⟨ws, hne, hsolid, rfl⟩
    refine ⟨?_, ?_⟩
    · intro hempty
      have hlist := join_ne_nil (List.forall_mem_map.2 hsolid) (mt List.map_eq_nil_iff.1 hne)
      rw [← toList_join, hempty] at hlist
      exact hlist rfl
    · rw [says_iff.1 (says_join hsolid)]

namespace Speakable

variable {word said : String}

/-- Its words are those it is joined of. -/
theorem join_eq (h : Speakable word) {ws : List String} (hws : Says word ws) :
    String.intercalate " " ws = word := by
  rw [← says_iff.1 hws]
  exact h.2.symm

/-- There is nothing to trim. -/
theorem trim_eq (h : Speakable word) : trim word.toList = word.toList := by
  obtain ⟨ws, -, hsolid, rfl⟩ := speakable_iff.1 h
  rw [toList_join]
  exact trim_join (List.forall_mem_map.2 hsolid)

/-- **A word that can be spoken can be spoken in any case.** -/
theorem of_lower_eq (h : Speakable word) (hsame : lower said.toList = lower word.toList) :
    Speakable said := by
  obtain ⟨ws, hne, hsolid, rfl⟩ := speakable_iff.1 h
  rw [toList_join] at hsame
  obtain ⟨vs, hvs, hsaid⟩ := exists_join hsame
  refine speakable_iff.2 ⟨vs.map String.ofList, ?_, ?_, ?_⟩
  · rintro hnone
    rw [List.map_eq_nil_iff.1 hnone] at hvs
    exact hne (List.map_eq_nil_iff.1 (List.map_eq_nil_iff.1 hvs.symm))
  · intro v hv
    obtain ⟨v, hmem, rfl⟩ := List.mem_map.1 hv
    -- up to case this is one of the words that were joined
    have hlower : lower v ∈ (ws.map String.toList).map lower := hvs ▸ List.mem_map_of_mem hmem
    obtain ⟨_, hmem', hcase⟩ := List.mem_map.1 hlower
    obtain ⟨w, hw, rfl⟩ := List.mem_map.1 hmem'
    rw [String.toList_ofList, ← solid_lower, ← hcase, solid_lower]
    exact hsolid w hw
  · rw [← String.toList_inj, toList_join, hsaid]
    simp [Function.comp_def]

end Speakable

/-! ## §2. Lines that say a word. -/

/-- **What is said at the console can be spoken.** -/
theorem Command.speakable_of_parse {line text : String}
    (h : parse line = .respond (.word text)) : Speakable text :=
  speakable_iff.2 (exists_parse_iff.1 ⟨line, h⟩)

/-- **What can be spoken is said by its words**, whatever blanks there are. -/
theorem Command.parse_of_speakable {said line : String} {ws : List String} (h : Speakable said)
    (hws : Says said ws) (hline : Says line ("say" :: ws)) :
    parse line = .respond (.word said) := by
  have hne : ws ≠ [] := by
    rintro rfl
    exact h.1 (h.join_eq hws).symm
  rw [parse_eq_iff hline (by simp), ← h.join_eq hws]
  exact .say hne

/-- **The words of a dictionary that can be spoken.**  Some line of input is an answer in which the
dictionary hears this word exactly if the word is not empty and is its own words joined by single
spaces.  Then the line may be any that says the keyword and the words, with the letters in any case
and with any blanks before, between and behind them. -/
theorem exists_line_iff_speakable {d : Dictionary} {index : UInt16} {word : String}
    (h : d.word? index = some word) :
    ((∃ line text, Command.parse line = .respond (.word text) ∧ d.isSaid index text = true)
        ↔ Speakable word)
      ∧ (Speakable word → ∀ said ws line,
          Dictionary.sameLetters said.toList word.toList = true → Says said ws →
          Says line ("say" :: ws) →
          Command.parse line = .respond (.word said) ∧ d.isSaid index said = true) := by
  have heard : Speakable word → ∀ said ws line,
      Dictionary.sameLetters said.toList word.toList = true → Says said ws →
      Says line ("say" :: ws) →
      Command.parse line = .respond (.word said) ∧ d.isSaid index said = true := by
    intro hword said ws line hsame hws hline
    have hcase := Dictionary.sameLetters_iff.1 hsame
    have hsaid : Speakable said := hword.of_lower_eq hcase
    refine ⟨Command.parse_of_speakable hsaid hws hline, ?_⟩
    rw [Dictionary.isSaid_iff h, hsaid.trim_eq]
    exact hcase.symm
  refine ⟨⟨?_, ?_⟩, heard⟩
  · rintro ⟨line, text, hline, hsaid⟩
    have htext := Command.speakable_of_parse hline
    rw [Dictionary.isSaid_iff h, htext.trim_eq] at hsaid
    exact htext.of_lower_eq hsaid
  · intro hword
    obtain ⟨ws, hws⟩ := exists_says word
    have hsolid : ∀ w ∈ "say" :: ws, Solid w.toList :=
      List.forall_mem_cons.2 ⟨Command.solid_of_followed "say" (by decide), hws.solid⟩
    exact ⟨_, word, heard hword word ws _ (Dictionary.sameLetters_iff.2 rfl) hws (says_join hsolid)⟩

/-- Two words of a dictionary, of which one is said in capitals between blanks, and the other has
two spaces in a row. -/
theorem exists_line_iff_speakable_sesame :
    let d : Dictionary := ⟨["Open Sesame", "open  sesame"]⟩
    (d.word? 0 = some "Open Sesame"
        ∧ Command.parse "\tsay  OPEN\u00a0sesame " = .respond (.word "OPEN sesame")
        ∧ d.isSaid 0 "OPEN sesame" = true)
      ∧ d.word? 1 = some "open  sesame"
        ∧ ¬ ∃ line text, Command.parse line = .respond (.word text) ∧ d.isSaid 1 text = true := by
  intro d
  have hfirst : d.word? 0 = some "Open Sesame" := rfl
  have hsecond : d.word? 1 = some "open  sesame" := rfl
  have hspeakable : Speakable "Open Sesame" := by decide +kernel
  have hline : Says "\tsay  OPEN\u00a0sesame " ["say", "OPEN", "sesame"] :=
    says_iff.2 (by decide +kernel)
  have hsaid : Says "OPEN sesame" ["OPEN", "sesame"] := says_iff.2 (by decide +kernel)
  refine ⟨⟨hfirst, ?_⟩, hsecond, ?_⟩
  · exact (exists_line_iff_speakable hfirst).2 hspeakable _ _ _ (by decide +kernel) hsaid hline
  · rw [(exists_line_iff_speakable hsecond).1]
    decide +kernel

end TileEvents
