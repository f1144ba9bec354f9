/-
  TileEvents.Disk.Basic
  ─────────────────────
  **A DISK.**

  A disk holds files and folders by their location, the names that lead to it
  from the root.  A path is walked piece by piece: two dots lead back, and
  whatever is walked through has to be a folder.  Reading, writing and making
  folders fail with the errors of an operating system.  Main statement: what
  was written is read back.
-/
import TileEvents.Disk.Path

namespace TileEvents

/-! ## §1. Errors. -/

/-- Why the disk refuses. -/
inductive DiskError where
  | notFound
  | alreadyExists
  | notAFolder
  | isAFolder
  | nameTooLong
  | nulInName
  | notText
  | noPermission
  /-- Any other reason, in the words of the operating system. -/
  | other (text : String)
  deriving DecidableEq

/-- The text of a reason. -/
def DiskError.message : DiskError → String
  | notFound => "No such file or directory (os error 2)"
  | alreadyExists => "File exists (os error 17)"
  | notAFolder => "Not a directory (os error 20)"
  | isAFolder => "Is a directory (os error 21)"
  | nameTooLong => "File name too long (os error 36)"
  | nulInName => "file name contained an unexpected NUL byte"
  | notText => "stream did not contain valid UTF-8"
  | noPermission => "Permission denied (os error 13)"
  | other text => text

/-! ## §2. Disks. -/

/-- The names that lead to a place from the root, the last one first. -/
abbrev Location := List String

/-- What lies at a location. -/
inductive Entry where
  | file (text : String)
  | folder
  deriving DecidableEq

/-- Files and folders by their locations. -/
structure Disk where
  entries : List (Location × Entry)

namespace Disk

/-- The disk with nothing on it. -/
def blank : Disk := ⟨[]⟩

/-- What lies at a location; the root is a folder. -/
def content? (d : Disk) (place : Location) : Option Entry :=
  if place = [] then some .folder else d.entries.lookup place

/-- The disk with an entry put at a location. -/
def put (d : Disk) (place : Location) (e : Entry) : Disk := ⟨(place, e) :: d.entries⟩

@[simp] theorem content?_put_self {d : Disk} {l : Location} {e : Entry} (h : l ≠ []) :
    (d.put l e).content? l = some e := by
  simp [content?, put, h]

theorem content?_put_of_ne {d : Disk} {l m : Location} {e : Entry} (h : m ≠ l) :
    (d.put l e).content? m = d.content? m := by
  simp [content?, put, List.lookup_cons, beq_false_of_ne h]

/-! ## §3. Walking. -/

/-- The bytes that a name may have. -/
def maxNameBytes : Nat := 255

/-- The bytes that a path may have. -/
def maxPathBytes : Nat := 4095

/-- The folder that a piece of a path leads to. -/
def enter (d : Disk) (here : Location) (piece : String) : Except DiskError Location :=
  if piece = "" ∨ piece = "." then .ok here
  else if piece = ".." then .ok here.tail
  else if maxNameBytes < piece.utf8ByteSize then .error .nameTooLong
  else
    match d.content? (piece :: here) with
    | some .folder => .ok (piece :: here)
    | some (.file _) => .error .notAFolder
    | none => .error .notFound

/-- The folder that pieces lead to. -/
def walk (d : Disk) : Location → List String → Except DiskError Location
  | here, [] => .ok here
  | here, piece :: rest =>
    match d.enter here piece with
    | .ok there => d.walk there rest
    | .error e => .error e

/-- A path taken apart: the pieces that lead to its folder, its last piece, and whether a slash
follows that. -/
structure Route where
  before : List String
  last : String
  slash : Bool

/-- The route of a path, unless the path cannot be one. -/
def route (path : String) : Except DiskError Route :=
  if path.contains '\x00' then .error .nulInName
  else if path.isEmpty then .error .notFound
  else if maxPathBytes < path.utf8ByteSize then .error .nameTooLong
  else
    let pieces := Path.piecesBackward path
    match pieces.filter (· != "") with
    | [] => .ok ⟨[], ".", true⟩
    | last :: before => .ok ⟨before.reverse, last, pieces.head? == some ""⟩

/-- Whether a piece leads to a folder on the way and names nothing itself. -/
def isDots (piece : String) : Bool := piece == "." || piece == ".."

/-- The location that a route leads to, its last piece still to be looked up. -/
def destination (d : Disk) (r : Route) : Except DiskError Location :=
  match d.walk [] r.before with
  | .error e => .error e
  | .ok here =>
    if maxNameBytes < r.last.utf8ByteSize then .error .nameTooLong else .ok (r.last :: here)

/-- What a path leads to. -/
def find (d : Disk) (path : String) : Except DiskError Entry :=
  match route path with
  | .error e => .error e
  | .ok r =>
    if isDots r.last then (d.walk [] (r.before ++ [r.last])).map fun _ => .folder
    else
      match d.destination r with
      | .error e => .error e
      | .ok l =>
        match d.content? l with
        | none => .error .notFound
        | some (.file text) => if r.slash then .error .notAFolder else .ok (.file text)
        | some .folder => .ok .folder

/-- Whether a path leads to a folder. -/
def isFolder (d : Disk) (path : String) : Bool :=
  match d.find path with
  | .ok .folder => true
  | _ => false

/-! ## §4. Reading and writing. -/

/-- **The text of a file.** -/
def read (d : Disk) (path : String) : Except DiskError String :=
  match d.find path with
  | .ok (.file text) => .ok text
  | .ok .folder => .error .isAFolder
  | .error e => .error e

/-- **Write a file**, whether or not there is one already. -/
def write (d : Disk) (path text : String) : Except DiskError Disk :=
  match route path with
  | .error e => .error e
  | .ok r =>
    if isDots r.last then
      match d.walk [] (r.before ++ [r.last]) with
      | .error e => .error e
      | .ok _ => .error .isAFolder
    else
      match d.destination r with
      | .error e => .error e
      | .ok l =>
        if r.slash || d.content? l == some .folder then .error .isAFolder
        else .ok (d.put l (.file text))

/-- Make one folder. -/
def makeFolder (d : Disk) (path : String) : Except DiskError Disk :=
  match route path with
  | .error e => .error e
  | .ok r =>
    if isDots r.last then
      match d.walk [] r.before with
      | .error e => .error e
      | .ok _ => .error .alreadyExists
    else
      match d.destination r with
      | .error e => .error e
      | .ok l =>
        if (d.content? l).isSome then .error .alreadyExists else .ok (d.put l .folder)

/-- Whether making a folder came to nothing for want of the folder around it. -/
def needsFolder : Except DiskError Disk → Bool
  | .error .notFound => true
  | _ => false

/-- What an attempt to make the folder at `path` comes to: one that is there already will do. -/
def settle (d : Disk) (path : String) : Except DiskError Disk → Except DiskError Unit × Disk
  | .ok d => (.ok (), d)
  | .error e => if d.isFolder path then (.ok (), d) else (.error e, d)

/-- Make a folder and the folders around it, given by the pieces of its path, the last one first.
What was made before a failure stays. -/
def makeFolders (d : Disk) (pieces : List String) : Except DiskError Unit × Disk :=
  if _h : pieces = [] then (.ok (), d)
  else
    let path := Path.ofPiecesBackward pieces
    let made := d.makeFolder path
    if needsFolder made then
      match d.makeFolders (Path.folderPieces pieces) with
      | (.error e, d) => (.error e, d)
      | (.ok (), d) => d.settle path (d.makeFolder path)
    else d.settle path made
termination_by pieces.length
decreasing_by exact Path.folderPieces_length ‹_›

/-- Make the folder of a path and the folders around it. -/
def makeFolderOf (d : Disk) (path : String) : Except DiskError Unit × Disk :=
  d.makeFolders (Path.folderPieces (Path.piecesBackward path))

/-! ## §5. What was written. -/

/-- Where folders stay folders, every walk through folders stays as it was. -/
theorem walk_of_folders {d d' : Disk}
    (hfolders : ∀ l, d.content? l = some .folder → d'.content? l = some .folder)
    {here there : Location} {pieces : List String} (h : d.walk here pieces = .ok there) :
    d'.walk here pieces = .ok there := by
  induction pieces generalizing here with
  | nil => exact h
  | cons piece rest ih =>
    rw [walk] at h ⊢
    split at h
    next next_ he =>
      have hd : d'.enter here piece = .ok next_ := by
        unfold enter at he ⊢
        split at he
        · simp_all
        · split at he
          · simp_all
          · split at he
            · simp at he
            · split at he <;> simp_all
      rw [hd]
      exact ih h
    next => simp at h

/-- A file put where no folder is leaves every folder as it was. -/
theorem folder_put {d : Disk} {l m : Location} {text : String} (hl : d.content? l ≠ some .folder)
    (h : d.content? m = some .folder) : (d.put l (.file text)).content? m = some .folder := by
  have hne : m ≠ l := by
    rintro rfl
    exact hl h
  rwa [content?_put_of_ne hne]

/-- **The location of the file that a path names**, whether or not there is one. -/
def LeadsTo (d : Disk) (path : String) (l : Location) : Prop :=
  ∃ r, route path = .ok r ∧ isDots r.last = false ∧ r.slash = false ∧ d.destination r = .ok l

/-- No file is the root. -/
theorem LeadsTo.ne_nil {d : Disk} {path : String} {l : Location} (h : d.LeadsTo path l) :
    l ≠ [] := by
  obtain ⟨r, -, -, -, hl⟩ := h
  unfold destination at hl
  split at hl
  · simp at hl
  · split at hl
    · simp at hl
    · simp only [Except.ok.injEq] at hl
      exact hl ▸ List.cons_ne_nil _ _

/-- Where folders stay folders, a path goes on to name the same file. -/
theorem LeadsTo.of_folders {d d' : Disk} {path : String} {l : Location} (h : d.LeadsTo path l)
    (hfolders : ∀ l, d.content? l = some .folder → d'.content? l = some .folder) :
    d'.LeadsTo path l := by
  obtain ⟨r, hr, hdots, hslash, hl⟩ := h
  refine ⟨r, hr, hdots, hslash, ?_⟩
  unfold destination at hl ⊢
  split at hl
  next => simp at hl
  next here hw =>
    rw [walk_of_folders hfolders hw]
    exact hl

/-- A file is found where its path leads. -/
theorem find_eq_file {d : Disk} {path text : String} :
    d.find path = .ok (.file text) ↔ ∃ l, d.LeadsTo path l ∧ d.content? l = some (.file text) := by
  constructor
  · intro h
    unfold find at h
    split at h
    next => simp at h
    next r hr =>
      split at h
      next => cases hw : d.walk [] (r.before ++ [r.last]) <;> simp [hw, Except.map] at h
      next hdots =>
        split at h
        next => simp at h
        next l hl =>
          cases hcontent : d.content? l with
          | none => simp [hcontent] at h
          | some e =>
            cases e with
            | folder => simp [hcontent] at h
            | file text' =>
              cases hslash : r.slash <;> simp [hcontent, hslash] at h
              exact ⟨l, ⟨r, hr, eq_false_of_ne_true hdots, hslash, hl⟩, h ▸ hcontent⟩
  · rintro ⟨l, ⟨r, hr, hdots, hslash, hl⟩, hcontent⟩
    simp [find, hr, hdots, hl, hcontent, hslash]

/-- What is read is the file that is found. -/
theorem read_eq_ok {d : Disk} {path text : String} :
    d.read path = .ok text ↔ ∃ l, d.LeadsTo path l ∧ d.content? l = some (.file text) := by
  rw [← find_eq_file, read]
  split <;> simp_all

/-- A file is written where its path leads, unless a folder is there. -/
theorem write_eq_ok {d d' : Disk} {path text : String} :
    d.write path text = .ok d'
      ↔ ∃ l, d.LeadsTo path l ∧ d.content? l ≠ some .folder ∧ d' = d.put l (.file text) := by
  constructor
  · intro h
    unfold write at h
    split at h
    next => simp at h
    next r hr =>
      split at h
      next => split at h <;> simp at h
      next hdots =>
        split at h
        next => simp at h
        next l hl =>
          split at h
          next => simp at h
          next hfile =>
            simp only [Bool.or_eq_true, beq_iff_eq, not_or, Bool.not_eq_true] at hfile hdots
            simp only [Except.ok.injEq] at h
            exact ⟨l, ⟨r, hr, hdots, hfile.1, hl⟩, hfile.2, h.symm⟩
  · rintro ⟨l, ⟨r, hr, hdots, hslash, hl⟩, hfile, rfl⟩
    simp [write, hr, hdots, hl, hslash, hfile]

/-- What was written is read back. -/
theorem read_write {d d' : Disk} {path text : String} (h : d.write path text = .ok d') :
    d'.read path = .ok text := by
  obtain ⟨l, hl, hfile, rfl⟩ := write_eq_ok.1 h
  exact read_eq_ok.2 ⟨l, hl.of_folders fun _ => folder_put hfile, content?_put_self hl.ne_nil⟩

end Disk

end TileEvents
