/-
  TileEvents.Disk.Path
  ────────────────────
  **PATHS.**

  A path is a text of pieces with slashes between them.  Empty pieces and
  dots that are not the first piece do not count, so the folder of a path is
  found by leaving out its last piece that counts.
-/

namespace TileEvents.Path

/-- The pieces of a path, the last one first. -/
def piecesBackward (path : String) : List String := (path.splitOn "/").reverse

/-- The path with these pieces, the last one first. -/
def ofPiecesBackward (pieces : List String) : String :=
  if pieces = [""] then "/" else String.intercalate "/" pieces.reverse

/-- Pieces, the last one first, without those at the end that do not count. -/
def trimPieces : List String → List String
  | [] => []
  | [first] => [first]
  | piece :: before =>
    if piece = "" ∨ piece = "." then trimPieces before else piece :: before

/-- The pieces of the folder of a path, the last one first. -/
def folderPieces (pieces : List String) : List String := trimPieces (trimPieces pieces).tail

theorem trimPieces_length (pieces : List String) : (trimPieces pieces).length ≤ pieces.length := by
  fun_induction trimPieces pieces with
  | case1 => simp
  | case2 => simp
  | case3 piece before _ _ ih =>
    simp only [List.length_cons]
    omega
  | case4 => simp

/-- A folder has fewer pieces. -/
theorem folderPieces_length {pieces : List String} (h : pieces ≠ []) :
    (folderPieces pieces).length < pieces.length := by
  have h1 := trimPieces_length (trimPieces pieces).tail
  have h2 := trimPieces_length pieces
  have h3 : 0 < pieces.length := List.length_pos_iff.2 h
  simp only [folderPieces, List.length_tail] at h1 ⊢
  omega

/-- The folder of a path; a path of one piece has the empty one. -/
def folder (path : String) : String := ofPiecesBackward (folderPieces (piecesBackward path))

/-- `name` within `folder`. -/
def join (folder name : String) : String :=
  if folder.isEmpty || folder.endsWith "/" then folder ++ name else folder ++ "/" ++ name

end TileEvents.Path
