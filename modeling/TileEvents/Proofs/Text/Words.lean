/-
  TileEvents.Proofs.Text.Words
  ────────────────────────────
  **A TEXT IS ITS WORDS WITH BLANKS BETWEEN THEM.**

  How a text is put together from its words can be said without cutting it:
  words stand in it in order, any two with a blank between them, and there may
  be more blanks everywhere.  Every text is put together from exactly one list
  of words, and that is the list it is cut into.

    • `exists_spaced`           — every text is put together from words;
    • `words_append_blank_cons` — a text is cut at every blank;
    • `spaced_iff`              — and so into what it was put together from;
    • `spaced_join`             — words that are joined by single spaces.
-/
import TileEvents.Text.Blank

namespace TileEvents.Text

/-! ## §1. Words and texts. -/

/-- A text that can be a word: it is not empty and holds no blank. -/
def Solid (w : List Char) : Prop := w ≠ [] ∧ ∀ c ∈ w, isBlank c = false

instance (w : List Char) : Decidable (Solid w) :=
  decidable_of_iff (w ≠ [] ∧ w.all (fun c => !isBlank c) = true) (by simp [Solid])

/-- **A text is put together from words**, with blanks between them and around them. -/
inductive Spaced : List Char → List (List Char) → Prop
  | nil : Spaced [] []
  | blank {c : Char} {s : List Char} {ws : List (List Char)} : isBlank c = true → Spaced s ws →
      Spaced (c :: s) ws
  | last {w : List Char} : Solid w → Spaced w [w]
  | word {w : List Char} {c : Char} {s : List Char} {ws : List (List Char)} : Solid w →
      isBlank c = true → Spaced s ws → Spaced (w ++ c :: s) (w :: ws)

/-- **Every text is put together from words.** -/
theorem exists_spaced (s : List Char) : ∃ ws, Spaced s ws := by
  induction s with
  | nil => exact ⟨[], .nil⟩
  | cons c s ih =>
      obtain ⟨ws, hws⟩ := ih
      cases hc : isBlank c with
      | true => exact ⟨ws, .blank hc hws⟩
      | false =>
          have hcons {w : List Char} (hw : Solid w) : Solid (c :: w) := by
            refine ⟨List.cons_ne_nil c w, ?_⟩
            rw [List.forall_mem_cons]
            exact ⟨hc, hw.2⟩
          have hone : Solid [c] := ⟨List.cons_ne_nil c [], by simp [hc]⟩
          -- the character is a word of its own, or belongs to the first word there is
          cases hws with
          | nil => exact ⟨[[c]], .last hone⟩
          | blank hb hrest => exact ⟨[c] :: ws, .word hone hb hrest⟩
          | last hw => exact ⟨[c :: s], .last (hcons hw)⟩
          | word hw hb hrest => exact ⟨_, .word (hcons hw) hb hrest⟩

/-! ## §2. Cutting a text. -/

/-- A text that does not begin with a blank has a word. -/
theorem words_ne_nil {c : Char} (h : ¬ isBlank c = true) (s : List Char) : words (c :: s) ≠ [] := by
  unfold words
  rw [if_neg h]
  split
  · simp
  · split
    · simp
    · split <;> simp

/-- **A text is cut at every blank**: the words before it and those after it are all there are. -/
theorem words_append_blank_cons {c : Char} (h : isBlank c = true) (s t : List Char) :
    words (s ++ c :: t) = words s ++ words t := by
  fun_induction words s with
  | case1 => simp [words, h]
  | case2 b rest hb ih => simpa [words, hb] using ih
  | case3 b hb => simp [words, hb, h]
  | case4 b hb d tl hd ih => simp_all [words]
  | case5 b hb d tl hd hws ih => exact absurd hws (words_ne_nil hd tl)
  | case6 b hb d tl hd w ws hws ih => simp_all [words]

/-- A word alone is one word. -/
theorem words_of_solid {w : List Char} (hw : Solid w) : words w = [w] := by
  obtain ⟨hne, hsolid⟩ := hw
  fun_induction words w with
  | case1 => exact absurd rfl hne
  | case2 c rest hc => exact absurd hc (by simp [hsolid c List.mem_cons_self])
  | case3 c hc => rfl
  | case4 c hc d tl hd => exact absurd hd (by simp [hsolid d (by simp)])
  | case5 c hc d tl hd hws => exact absurd hws (words_ne_nil hd tl)
  | case6 c hc d tl hd w ws hws ih =>
      have hword := ih (List.cons_ne_nil d tl) fun c' hc' => hsolid c' (List.mem_cons_of_mem c hc')
      rw [hws] at hword
      cases hword
      rw [hws]

/-- A text is cut into the words it is put together from. -/
theorem Spaced.words_eq {s : List Char} {ws : List (List Char)} (h : Spaced s ws) :
    words s = ws := by
  induction h with
  | nil => rfl
  | @blank c s ws hc _ ih =>
      have hcut := words_append_blank_cons hc [] s
      rw [List.nil_append] at hcut
      rw [hcut, ih]
      rfl
  | last hw => exact words_of_solid hw
  | word hw hc _ ih =>
      rw [words_append_blank_cons hc, words_of_solid hw, ih]
      rfl

/-- **A text is put together from the words it is cut into**, and from no others. -/
theorem spaced_iff {s : List Char} {ws : List (List Char)} : Spaced s ws ↔ words s = ws := by
  refine ⟨Spaced.words_eq, ?_⟩
  intro h
  obtain ⟨ws', hws'⟩ := exists_spaced s
  rwa [← h, hws'.words_eq]

/-- Words are not empty and hold no blank. -/
theorem Spaced.solid {s : List Char} {ws : List (List Char)} (h : Spaced s ws) :
    ∀ w ∈ ws, Solid w := by
  rw [← h.words_eq]
  exact words_solid s

/-! ## §3. Lines. -/

/-- Words that are joined by single spaces are cut apart again. -/
theorem spaced_join {ws : List (List Char)} (h : ∀ w ∈ ws, Solid w) :
    Spaced ([' '].intercalate ws) ws := by
  induction ws with
  | nil => exact .nil
  | cons w ws ih =>
      obtain ⟨hw, hws⟩ := List.forall_mem_cons.1 h
      cases ws with
      | nil =>
          have hone : [' '].intercalate [w] = w := by simp [List.intercalate]
          rw [hone]
          exact .last hw
      | cons v ws =>
          have hmore : [' '].intercalate (w :: v :: ws)
              = w ++ ' ' :: [' '].intercalate (v :: ws) := by
            simp [List.intercalate]
          rw [hmore]
          exact .word hw rfl (ih hws)

/-- **A line says these words.** -/
def Says (line : String) (ws : List String) : Prop := Spaced line.toList (ws.map String.toList)

/-- A line says the words it is cut into. -/
theorem says_iff {line : String} {ws : List String} :
    Says line ws ↔ (words line.toList).map String.ofList = ws := by
  rw [Says, spaced_iff]
  constructor
  · intro h
    rw [h, List.map_map]
    simp [Function.comp_def]
  · rintro rfl
    rw [List.map_map]
    simp [Function.comp_def]

/-- Every line says something, if only nothing. -/
theorem exists_says (line : String) : ∃ ws, Says line ws := ⟨_, says_iff.2 rfl⟩

theorem Says.solid {line : String} {ws : List String} (h : Says line ws) :
    ∀ w ∈ ws, Solid w.toList :=
  fun _ hw => Spaced.solid h _ (List.mem_map_of_mem hw)

/-- **Any words can be said**, with a single space between two of them. -/
theorem says_join {ws : List String} (h : ∀ w ∈ ws, Solid w.toList) :
    Says (String.intercalate " " ws) ws := by
  rw [Says, String.toList_intercalate]
  exact spaced_join (List.forall_mem_map.2 h)

end TileEvents.Text
