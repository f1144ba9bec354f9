/-
  TileEvents.Proofs.Disk.Files
  ────────────────────────────
  **TO WRITE A FILE LEAVES ALL OTHERS AS THEY ARE.**

  Where a path leads can be read off its names, if there are folders where it
  needs them.  Folders are made only where nothing is, and a file is put only
  where its path leads.  So whatever is stored, a file that could be read is
  still read the same, unless it is the file that was stored.

    • `Path.location?`     — where a path leads by its names;
    • `Disk.Keeps`         — everything stays but certain files;
    • `Disk.Keeps.read`    — the others are read as before;
    • `Disk.store_keeps`   — to store a file keeps everything but that file.
-/
import TileEvents.Disk.Errand

namespace TileEvents

/-! ## §1. Locations by name. -/

/-- Where a piece of a path leads, if there is a folder. -/
def Path.follow (here : Location) (piece : String) : Location :=
  if piece = "" ∨ piece = "." then here
  else if piece = ".." then here.tail
  else piece :: here

/-- **The location that a path names**, read off the path alone. -/
def Path.location? (path : String) : Option Location :=
  match Disk.route path with
  | .ok r => some (r.last :: r.before.foldl follow [])
  | .error _ => none

namespace Disk

/-- Whoever enters a piece has followed it. -/
theorem enter_eq_ok {d : Disk} {here there : Location} {piece : String}
    (h : d.enter here piece = .ok there) : there = Path.follow here piece := by
  unfold enter at h
  unfold Path.follow
  split at h
  · simp_all
  · split at h
    · simp_all
    · split at h
      · cases h
      · split at h <;> simp_all

theorem walk_eq_ok {d : Disk} {there : Location} {pieces : List String} :
    ∀ {here : Location}, d.walk here pieces = .ok there →
      there = pieces.foldl Path.follow here := by
  induction pieces with
  | nil =>
      intro here h
      injection h with h
      exact h.symm
  | cons piece rest ih =>
      intro here h
      rw [walk] at h
      split at h
      next next_ he =>
        rw [List.foldl_cons, ← enter_eq_ok he]
        exact ih h
      next => cases h

/-- **A path that leads to a file leads to the location it names.** -/
theorem LeadsTo.location?_eq {d : Disk} {path : String} {l : Location} (h : d.LeadsTo path l) :
    Path.location? path = some l := by
  obtain ⟨r, hr, -, -, hl⟩ := h
  unfold destination at hl
  split at hl
  next => cases hl
  next here hw =>
    split at hl
    · cases hl
    · injection hl with hl
      rw [Path.location?, hr, ← hl, walk_eq_ok hw]

/-! ## §2. What stays. -/

/-- **Everything stays but the files at these locations.** -/
structure Keeps (d d' : Disk) (written : Location → Prop) : Prop where
  folders : ∀ l, d.content? l = some .folder → d'.content? l = some .folder
  files : ∀ l text, ¬ written l → d.content? l = some (.file text) →
    d'.content? l = some (.file text)

namespace Keeps

variable {d d' d'' : Disk} {written written' : Location → Prop}

theorem refl (d : Disk) (written : Location → Prop) : d.Keeps d written :=
  ⟨fun _ h => h, fun _ _ _ h => h⟩

theorem trans (h : d.Keeps d' written) (h' : d'.Keeps d'' written) : d.Keeps d'' written :=
  ⟨fun l hl => h'.folders l (h.folders l hl),
    fun l text hout hl => h'.files l text hout (h.files l text hout hl)⟩

theorem mono (h : d.Keeps d' written) (himp : ∀ l, written l → written' l) : d.Keeps d' written' :=
  ⟨h.folders, fun l text hout => h.files l text (mt (himp l) hout)⟩

/-- **A file elsewhere is read as before.** -/
theorem read (h : d.Keeps d' written) {path text : String} (hread : d.read path = .ok text)
    (hpath : ∀ l, Path.location? path = some l → ¬ written l) : d'.read path = .ok text := by
  obtain ⟨l, hl, hcontent⟩ := read_eq_ok.1 hread
  exact read_eq_ok.2
    ⟨l, hl.of_folders h.folders, h.files l text (hpath l hl.location?_eq) hcontent⟩

end Keeps

/-! ## §3. Folders. -/

/-- What is put where nothing was keeps everything. -/
theorem keeps_put {d : Disk} {l : Location} (hl : d.content? l = none) (e : Entry)
    (written : Location → Prop) : d.Keeps (d.put l e) written := by
  have hstays {m : Location} {e' : Entry} (hm : d.content? m = some e') :
      (d.put l e).content? m = some e' := by
    have hne : m ≠ l := by
      rintro rfl
      rw [hl] at hm
      cases hm
    rwa [content?_put_of_ne hne]
  exact ⟨fun _ => hstays, fun _ _ _ => hstays⟩

/-- A folder is made only where nothing is. -/
theorem makeFolder_keeps {d d' : Disk} {path : String} (h : d.makeFolder path = .ok d')
    (written : Location → Prop) : d.Keeps d' written := by
  unfold makeFolder at h
  split at h
  · cases h
  · split at h
    · split at h <;> cases h
    · split at h
      · cases h
      · split at h
        · cases h
        next l _ hnone =>
          injection h with h
          rw [← h]
          refine keeps_put ?_ _ written
          simpa using hnone

theorem settle_keeps {d : Disk} {path : String} (written : Location → Prop) :
    d.Keeps (d.settle path (d.makeFolder path)).2 written := by
  unfold settle
  split
  next d' h => exact makeFolder_keeps h written
  next => split <;> exact .refl d written

/-- **Folders are made only where nothing is.** -/
theorem makeFolders_keeps (d : Disk) (pieces : List String) (written : Location → Prop) :
    d.Keeps (d.makeFolders pieces).2 written := by
  fun_induction makeFolders d pieces with
  | case1 => exact .refl _ written
  | case2 pieces hne path made hneeds e d' hmade ih =>
      rw [hmade] at ih
      exact ih
  | case3 pieces hne path made hneeds d' hmade ih =>
      rw [hmade] at ih
      exact ih.trans (settle_keeps written)
  | case4 pieces hne path made hneeds => exact settle_keeps written

/-! ## §4. Files. -/

/-- A file is put only where its path leads. -/
theorem write_keeps {d d' : Disk} {path text : String} (h : d.write path text = .ok d') :
    d.Keeps d' fun l => Path.location? path = some l := by
  obtain ⟨l, hl, hfile, rfl⟩ := write_eq_ok.1 h
  refine ⟨fun m => folder_put hfile, fun m text' hout hm => ?_⟩
  have hne : m ≠ l := by
    rintro rfl
    exact hout hl.location?_eq
  rwa [content?_put_of_ne hne]

/-- **To store a file keeps everything but that file**, and if it fails everything. -/
theorem store_keeps (d : Disk) (path text : String) :
    d.Keeps (d.store path text).2 fun l =>
      (d.store path text).1 = .ok () ∧ Path.location? path = some l := by
  have hfolders (written : Location → Prop) : d.Keeps (d.makeFolderOf path).2 written :=
    d.makeFolders_keeps _ written
  unfold store
  generalize d.makeFolderOf path = made at hfolders
  obtain ⟨result, d'⟩ := made
  cases result with
  | error e => exact hfolders _
  | ok u =>
      dsimp only
      cases hwrite : d'.write path text with
      | error e => exact hfolders _
      | ok d'' =>
          refine (hfolders _).trans ((write_keeps hwrite).mono ?_)
          exact fun _ hl => ⟨rfl, hl⟩

end Disk

end TileEvents
