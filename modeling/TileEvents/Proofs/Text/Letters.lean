/-
  TileEvents.Proofs.Text.Letters
  ──────────────────────────────
  **THE SAME TEXT IN ANOTHER CASE.**

  Two texts have the same letters if they differ in the case of ASCII letters
  alone.  No blank is such a letter and none becomes one, so a change of case
  moves no blank: a text that has the letters of words joined by single spaces
  is itself such words joined, and joined words have nothing to trim.

    • `isBlank_toLower`   — blanks have no case;
    • `solid_lower`       — nor does it matter to what can be a word;
    • `exists_join`       — what has the letters of joined words is joined words;
    • `trim_join`         — joined words have nothing to trim.
-/
import TileEvents.Proofs.Text.Words

namespace TileEvents.Text

/-! ## §1. Case. -/

/-- A text in lower case. -/
def lower (s : List Char) : List Char := s.map Char.toLower

/-- Beyond ASCII no letter has another case here. -/
theorem toLower_of_le {c : Char} (h : 128 ≤ c.toNat) : c.toLower = c := by
  have hZ : ¬ c.val ≤ 'Z'.val := by
    intro hle
    have hle : c.toNat ≤ 90 := UInt32.le_iff_toNat_le.1 hle
    omega
  unfold Char.toLower
  rw [dif_neg fun h => hZ h.2]

/-- What holds of the case of ASCII characters and of what has no other case holds of all. -/
theorem toLower_cases {P : Char → Char → Prop}
    (ascii : ∀ n < 128, P (Char.ofNat n) (Char.ofNat n).toLower)
    (other : ∀ c, P c c) (c : Char) : P c c.toLower := by
  rcases Nat.lt_or_ge c.toNat 128 with hc | hc
  · have hsame := ascii c.toNat hc
    rwa [Char.ofNat_toNat] at hsame
  · rw [toLower_of_le hc]
    exact other c

/-- Blanks have no case. -/
theorem isBlank_toLower (c : Char) : isBlank c.toLower = isBlank c :=
  toLower_cases (P := fun c l => isBlank l = isBlank c) (by decide) (fun _ => rfl) c

/-- The space is the lower case of itself alone. -/
theorem toLower_eq_space {c : Char} : c.toLower = ' ' ↔ c = ' ' :=
  toLower_cases (P := fun c l => l = ' ' ↔ c = ' ') (by decide) (fun _ => Iff.rfl) c

/-- **Case does not matter to what can be a word.** -/
theorem solid_lower {w : List Char} : Solid (lower w) ↔ Solid w := by
  simp [Solid, lower, isBlank_toLower]

/-! ## §2. Joined words. -/

theorem join_cons_cons (w v : List Char) (ws : List (List Char)) :
    [' '].intercalate (w :: v :: ws) = w ++ ' ' :: [' '].intercalate (v :: ws) := by
  simp [List.intercalate]

theorem join_singleton (w : List Char) : [' '].intercalate [w] = w := by simp [List.intercalate]

theorem join_ne_nil {ws : List (List Char)} (h : ∀ w ∈ ws, Solid w) (hne : ws ≠ []) :
    [' '].intercalate ws ≠ [] := by
  match ws with
  | [w] =>
      rw [join_singleton]
      exact (h w List.mem_cons_self).1
  | w :: v :: ws =>
      rw [join_cons_cons]
      exact List.append_ne_nil_of_right_ne_nil w (List.cons_ne_nil _ _)

/-- **What has the letters of joined words is joined words with these letters.** -/
theorem exists_join {ws : List (List Char)} :
    ∀ {s : List Char}, lower s = lower ([' '].intercalate ws) →
      ∃ vs, vs.map lower = ws.map lower ∧ s = [' '].intercalate vs := by
  induction ws with
  | nil =>
      intro s h
      exact ⟨[], rfl, List.map_eq_nil_iff.1 h⟩
  | cons w ws ih =>
      intro s h
      cases ws with
      | nil =>
          rw [join_singleton] at h
          exact ⟨[s], by simp [h], (join_singleton s).symm⟩
      | cons v ws =>
          -- the first word ends at the first space, and the rest is joined words again
          rw [join_cons_cons, lower, lower, List.map_append, List.map_cons] at h
          obtain ⟨w', t, rfl, hw, ht⟩ := List.map_eq_append_iff.1 h
          obtain ⟨c, s', rfl, hc, hs'⟩ := List.map_eq_cons_iff.1 ht
          obtain ⟨vs, hvs, rfl⟩ := ih hs'
          obtain rfl : c = ' ' := toLower_eq_space.1 hc
          cases vs with
          | nil => cases hvs
          | cons v' vs =>
              refine ⟨w' :: v' :: vs, ?_, (join_cons_cons w' v' vs).symm⟩
              rw [List.map_cons, hvs, List.map_cons]
              exact congrArg (· :: _) hw

/-- A text that does not begin with a blank has none to drop. -/
theorem dropWhile_eq_self {s : List Char} (h : ∀ c ∈ s.head?, isBlank c = false) :
    s.dropWhile isBlank = s := by
  cases s with
  | nil => rfl
  | cons c s => simp [h c rfl]

/-- A text is trimmed if there is no blank at either end. -/
theorem trim_eq_self {s : List Char} (hhead : ∀ c ∈ s.head?, isBlank c = false)
    (hlast : ∀ c ∈ s.getLast?, isBlank c = false) : trim s = s := by
  have hreverse : s.reverse.dropWhile isBlank = s.reverse := by
    refine dropWhile_eq_self ?_
    rwa [List.head?_reverse]
  rw [trim, dropEnd, dropWhile_eq_self hhead, hreverse, List.reverse_reverse]

/-- Joined words do not begin with a blank and do not end with one. -/
theorem join_ends {ws : List (List Char)} (h : ∀ w ∈ ws, Solid w) :
    (∀ c ∈ ([' '].intercalate ws).head?, isBlank c = false)
      ∧ ∀ c ∈ ([' '].intercalate ws).getLast?, isBlank c = false := by
  induction ws with
  | nil => simp [List.intercalate]
  | cons w ws ih =>
      obtain ⟨⟨hne, hw⟩, hws⟩ := List.forall_mem_cons.1 h
      cases ws with
      | nil =>
          rw [join_singleton]
          exact ⟨fun c hc => hw c (List.mem_of_mem_head? hc),
            fun c hc => hw c (List.mem_of_mem_getLast? hc)⟩
      | cons v ws =>
          have hrest := join_ne_nil hws (List.cons_ne_nil v ws)
          rw [join_cons_cons]
          refine ⟨?_, ?_⟩
          · rw [List.head?_append, List.head?_eq_some_head hne]
            exact fun c hc => hw c (List.mem_of_mem_head? ((List.head?_eq_some_head hne).trans hc))
          · rw [← List.singleton_append, ← List.append_assoc, List.getLast?_append,
              List.getLast?_eq_some_getLast hrest]
            exact fun c hc => (ih hws).2 c ((List.getLast?_eq_some_getLast hrest).trans hc)

/-- **Joined words have nothing to trim.** -/
theorem trim_join {ws : List (List Char)} (h : ∀ w ∈ ws, Solid w) :
    trim ([' '].intercalate ws) = [' '].intercalate ws :=
  trim_eq_self (join_ends h).1 (join_ends h).2

end TileEvents.Text
