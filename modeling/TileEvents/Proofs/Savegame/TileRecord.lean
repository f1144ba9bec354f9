/-
  TileEvents.Proofs.Savegame.TileRecord
  ─────────────────────────────────────
  **REPLACED TILES, ONE ENTRY EACH.**

  A savegame does not keep every replacement of a tile but the last one, in the
  place of the first.  The list is as good as the whole history: whoever draws
  the map from the entries sees the same tiles as someone who followed all
  replacements.

    • `TileChange.last?`      — the tile a list of changes ends up with;
    • `TileChange.replay`     — the changes carried out on a map;
    • `TileChange.Replays`    — what a record owes to the changes it is made of;
    • `recordAll_replays`     — changes recorded one after the other are such a record.
-/
import TileEvents.Savegame.Basic

namespace TileEvents.TileChange

/-! ## §1. Changes on a map. -/

/-- The tile that `target` is last changed to. -/
def last? (target : TileTarget) : List TileChange → Option UInt16
  | [] => none
  | c :: rest => (last? target rest).or (if c.target = target then some c.tile else none)

/-- The tiles of a map after changes made in order. -/
def replay (tiles : TileTarget → UInt16) (changes : List TileChange) : TileTarget → UInt16 :=
  changes.foldl (fun tiles c target => if c.target = target then c.tile else tiles target) tiles

/-- A tile is what it was last changed to, or what it was. -/
theorem replay_apply (tiles : TileTarget → UInt16) (changes : List TileChange) (target : TileTarget) :
    replay tiles changes target = (last? target changes).getD (tiles target) := by
  induction changes generalizing tiles with
  | nil => rfl
  | cons c rest ih =>
      show replay _ rest target = _
      rw [ih, last?]
      cases last? target rest with
      | some tile => rfl
      | none =>
          show (if c.target = target then c.tile else tiles target) = _
          rw [Option.none_or]
          split
          · rfl
          · rfl

/-- What is not a target is not changed. -/
theorem last?_eq_none {target : TileTarget} {changes : List TileChange}
    (h : target ∉ changes.map (·.target)) : last? target changes = none := by
  induction changes with
  | nil => rfl
  | cons c rest ih =>
      rw [List.map_cons, List.mem_cons, not_or] at h
      rw [last?, ih h.2, Option.none_or, if_neg (Ne.symm h.1)]

/-- Where every target has one entry, the entries say what the tiles are changed to. -/
theorem mem_iff_last? {changes : List TileChange} (h : (changes.map (·.target)).Nodup)
    (target : TileTarget) (tile : UInt16) :
    ⟨target, tile⟩ ∈ changes ↔ last? target changes = some tile := by
  induction changes with
  | nil => exact iff_of_false List.not_mem_nil nofun
  | cons c rest ih =>
      obtain ⟨hfresh, hrest⟩ := List.nodup_cons.1 h
      rw [List.mem_cons, ih hrest, last?]
      by_cases htarget : c.target = target
      -- the entry in front is the only one of its target
      · rw [last?_eq_none (htarget ▸ hfresh), Option.none_or, if_pos htarget]
        obtain ⟨target', tile'⟩ := c
        simp only [mk.injEq, reduceCtorEq, or_false, Option.some.injEq] at htarget ⊢
        exact ⟨fun h => h.2.symm, fun h => ⟨htarget.symm, h.symm⟩⟩
      · rw [if_neg htarget, Option.or_none]
        exact or_iff_right fun h => htarget (congrArg (·.target) h).symm

/-! ## §2. One change recorded. -/

/-- The targets after a change was recorded: a new one follows the others. -/
theorem map_target_record (target : TileTarget) (tile : UInt16) (changes : List TileChange) :
    (record target tile changes).map (·.target)
      = if target ∈ changes.map (·.target) then changes.map (·.target)
        else changes.map (·.target) ++ [target] := by
  induction changes with
  | nil => rfl
  | cons c rest ih =>
      unfold record
      by_cases htarget : c.target = target
      · simp [htarget]
      · rw [if_neg htarget, List.map_cons, ih, List.map_cons]
        by_cases hmem : target ∈ rest.map (·.target)
        · rw [if_pos hmem, if_pos (List.mem_cons_of_mem _ hmem)]
        · rw [if_neg hmem, if_neg (by simpa [Ne.symm htarget] using hmem)]
          rfl

/-- Where every target had one entry, every target has one. -/
theorem nodup_record {changes : List TileChange} (h : (changes.map (·.target)).Nodup)
    (target : TileTarget) (tile : UInt16) :
    ((record target tile changes).map (·.target)).Nodup := by
  rw [map_target_record]
  split
  · exact h
  · next hfresh =>
      refine List.nodup_append.2 ⟨h, by simp, ?_⟩
      intro a ha b hb heq
      rw [List.mem_singleton.1 hb] at heq
      exact hfresh (heq ▸ ha)

/-- The recorded tile is what the target is now changed to, and nothing becomes of the others. -/
theorem last?_record {changes : List TileChange} (h : (changes.map (·.target)).Nodup)
    (target target' : TileTarget) (tile : UInt16) :
    last? target' (record target tile changes)
      = if target = target' then some tile else last? target' changes := by
  induction changes with
  | nil => rfl
  | cons c rest ih =>
      obtain ⟨hfresh, hrest⟩ := List.nodup_cons.1 h
      unfold record
      by_cases htarget : c.target = target
      · rw [if_pos htarget, last?, last?]
        -- the entry that gives way is the only one of its target
        by_cases heq : target = target'
        · rw [if_pos heq, if_pos heq, last?_eq_none (heq ▸ htarget ▸ hfresh), Option.none_or]
        · rw [if_neg heq, if_neg heq, if_neg (htarget ▸ heq)]
      · rw [if_neg htarget, last?, last?, ih hrest]
        by_cases heq : target = target'
        · rw [if_pos heq, if_pos heq, Option.some_or]
        · rw [if_neg heq, if_neg heq]

/-- An entry is the new one, or it was there before. -/
theorem mem_record {c : TileChange} {target : TileTarget} {tile : UInt16}
    {changes : List TileChange} (h : c ∈ record target tile changes) : c = ⟨target, tile⟩ ∨ c ∈ changes := by
  induction changes with
  | nil => exact .inl (List.mem_singleton.1 h)
  | cons first rest ih =>
      unfold record at h
      split at h
      · exact (List.mem_cons.1 h).imp_right (List.mem_cons_of_mem _)
      · rcases List.mem_cons.1 h with rfl | h
        · exact .inr List.mem_cons_self
        · exact (ih h).imp_right (List.mem_cons_of_mem _)

/-! ## §3. All changes recorded. -/

/-- Changes recorded one after the other. -/
def recordAll (initial changes : List TileChange) : List TileChange :=
  changes.foldl (fun recorded c => record c.target c.tile recorded) initial

theorem recordAll_append (initial changes changes' : List TileChange) :
    recordAll initial (changes ++ changes') = recordAll (recordAll initial changes) changes' :=
  List.foldl_append ..

/-- Every entry is one of the changes, or it was there at the beginning. -/
theorem mem_recordAll {c : TileChange} {initial changes : List TileChange}
    (h : c ∈ recordAll initial changes) : c ∈ initial ∨ c ∈ changes := by
  induction changes generalizing initial with
  | nil => exact .inl h
  | cons first rest ih =>
      rcases ih h with hrecorded | hlater
      · rcases mem_record hrecorded with rfl | hbefore
        · exact .inr List.mem_cons_self
        · exact .inl hbefore
      · exact .inr (List.mem_cons_of_mem _ hlater)

/-- A list without repetition keeps all its members. -/
theorem eraseDups_of_nodup {l : List TileTarget} (h : l.Nodup) : l.eraseDups = l := by
  induction l with
  | nil => rfl
  | cons a l ih =>
      obtain ⟨hfresh, hl⟩ := List.nodup_cons.1 h
      have hfilter : l.filter (fun b => !b == a) = l := by
        refine List.filter_eq_self.2 fun b hb => ?_
        have hne : b ≠ a := fun heq => hfresh (heq ▸ hb)
        simp [hne]
      rw [List.eraseDups_cons, hfilter, ih hl]

/-- To meet a target again does not change the order. -/
theorem eraseDups_append_cons (l l' : List TileTarget) (a : TileTarget) :
    (l ++ a :: l').eraseDups = ((if a ∈ l then l else l ++ [a]) ++ l').eraseDups := by
  split
  · next hmem =>
      have hremoved : (a :: l').removeAll l = l'.removeAll l := by
        simp [List.removeAll, hmem]
      rw [List.eraseDups_append, List.eraseDups_append, hremoved]
  · rw [List.append_assoc, List.singleton_append]

section RecordAll

variable {initial : List TileChange} (h : (initial.map (·.target)).Nodup)

include h

theorem nodup_recordAll (changes : List TileChange) :
    ((recordAll initial changes).map (·.target)).Nodup := by
  induction changes generalizing initial with
  | nil => exact h
  | cons c rest ih => exact ih (nodup_record h c.target c.tile)

/-- A target is changed to the tile it is last changed to, also by what was there before. -/
theorem last?_recordAll (changes : List TileChange) (target : TileTarget) :
    last? target (recordAll initial changes)
      = (last? target changes).or (last? target initial) := by
  induction changes generalizing initial with
  | nil => rfl
  | cons c rest ih =>
      show last? target (recordAll (record c.target c.tile initial) rest) = _
      rw [ih (nodup_record h c.target c.tile), last?_record h, last?, Option.or_assoc]
      split
      · rfl
      · rfl

/-- The targets stand in the order in which they came first. -/
theorem map_target_recordAll (changes : List TileChange) :
    (recordAll initial changes).map (·.target)
      = (initial.map (·.target) ++ changes.map (·.target)).eraseDups := by
  induction changes generalizing initial with
  | nil =>
      show initial.map (·.target) = _
      rw [List.map_nil, List.append_nil, eraseDups_of_nodup h]
  | cons c rest ih =>
      show (recordAll (record c.target c.tile initial) rest).map (·.target) = _
      rw [ih (nodup_record h c.target c.tile), map_target_record, List.map_cons,
        eraseDups_append_cons]

end RecordAll

/-- **`recorded` is as good as `initial` and then all of `changes`.** -/
structure Replays (initial changes recorded : List TileChange) : Prop where
  /-- No target has two entries. -/
  distinct : (recorded.map (·.target)).Nodup
  /-- The entry of a target is what it was last changed to, or its initial entry. -/
  latest : ∀ target tile, ⟨target, tile⟩ ∈ recorded ↔
    (last? target changes).or (last? target initial) = some tile
  /-- The entries make of a map what the initial entries and then all changes make of it. -/
  replays : ∀ tiles, replay tiles recorded = replay (replay tiles initial) changes
  /-- The entries stand in the order in which their targets came first. -/
  order : recorded.map (·.target) = (initial.map (·.target) ++ changes.map (·.target)).eraseDups

/-- **Changes recorded one after the other replay.** -/
theorem recordAll_replays {initial : List TileChange} (h : (initial.map (·.target)).Nodup)
    (changes : List TileChange) : Replays initial changes (recordAll initial changes) where
  distinct := nodup_recordAll h changes
  latest target tile := by rw [mem_iff_last? (nodup_recordAll h changes), last?_recordAll h]
  replays tiles := by
    funext target
    rw [replay_apply, replay_apply, replay_apply, last?_recordAll h]
    cases last? target changes with
    | some tile => rfl
    | none => rfl
  order := map_target_recordAll h changes

end TileEvents.TileChange
