/-
  TileEvents.Definition.Validation
  ────────────────────────────────
  **WHAT IS WRONG WITH A MAP DEFINITION.**

  Validation goes through a definition in order and reports every problem: the
  reserved map index, the type and the links of every node, values out of
  range, the number and the start of the chains, and tiles that lie on each
  other, outside the map or without an event.
-/
import TileEvents.Definition.Basic

namespace TileEvents

/-! ## §1. Problems. -/

/-- Which link of a node leads nowhere. -/
inductive LinkRole where
  | next
  | branch
  deriving DecidableEq

/-- A value that is not allowed. -/
inductive BadValue where
  | reservedMapIndex
  | diceChance (node : Nat) (chance : UInt8)
  | openingHours (node : Nat) (opening closing : UInt8)
  | tooManyChains (count : Nat)
  | missingHead (event : Nat) (head : UInt16)
  | tileOutside (x y width height : UInt8)
  | unknownTileEvent (x y : UInt8) (event : UInt16)
  deriving DecidableEq

/-- A problem of a definition. -/
inductive DefinitionError where
  | danglingLink (source : Nat) (target : UInt16) (role : LinkRole)
  | typeMismatch (node : Nat) (declared payload : UInt8)
  | duplicateTile (x y : UInt8)
  | invalidValue (value : BadValue)
  deriving DecidableEq

/-- How many event bits a map has, and so how many chains it may hold. -/
def eventBitsPerMap : Nat := 64

/-- The name of a link. -/
def LinkRole.name : LinkRole → String
  | next => "next"
  | branch => "branch"

/-- The text of a value that is not allowed. -/
def BadValue.message : BadValue → String
  | reservedMapIndex => "map index 0 is reserved for \"current map\""
  | diceChance node chance => s!"node #{node} rolls with chance {chance} (max 100)"
  | openingHours node opening closing => s!"node #{node} has opening hours {opening}-{closing}"
  | tooManyChains count =>
    s!"{count} event chains exceed the {eventBitsPerMap} event bits of a map"
  | missingHead event head => s!"event id {event} starts at missing node #{head}"
  | tileOutside x y width height => s!"tile ({x}, {y}) outside {width}x{height} map"
  | unknownTileEvent x y event => s!"tile ({x}, {y}) references unknown event id {event}"

/-- The text of a problem. -/
def DefinitionError.message : DefinitionError → String
  | danglingLink source target role =>
    s!"node #{source} links to missing node #{target} ({role.name})"
  | typeMismatch node declared payload =>
    s!"node #{node} declares type {declared} but carries a type {payload} payload"
  | duplicateTile x y => s!"tile ({x}, {y}) has more than one event"
  | invalidValue value => s!"invalid value ({value.message})"

/-! ## §2. Checks. -/

/-- The problem if there is one. -/
def problemIf (bad : Bool) (e : DefinitionError) : List DefinitionError := if bad then [e] else []

/-- The problem of a link that leads outside the table. -/
def linkProblems (count source : Nat) (role : LinkRole) (target : UInt16) : List DefinitionError :=
  problemIf (target != NodeId.noLink && count ≤ target.toNat) (.danglingLink source target role)

/-- The problem of a declared type that does not go with the payload. -/
def NodeDefinition.typeProblems (source : Nat) (n : NodeDefinition) : List DefinitionError :=
  match n.payload.typeCode? with
  | some code => problemIf (code != n.type) (.typeMismatch source n.type code)
  | none => []

/-- The problem of a payload's values. -/
def PayloadDefinition.valueProblems (source : Nat) : PayloadDefinition → List DefinitionError
  | .diceRoll chance _ => problemIf (100 < chance) (.invalidValue (.diceChance source chance))
  | .enterPlace _ _ opening closing _ _ =>
    problemIf (23 < opening || 24 < closing) (.invalidValue (.openingHours source opening closing))
  | _ => []

/-- The problems of the node at a position. -/
def NodeDefinition.problems (count source : Nat) (n : NodeDefinition) : List DefinitionError :=
  n.typeProblems source
    ++ linkProblems count source .next n.next
    ++ n.payload.branchLinks.flatMap (linkProblems count source .branch)
    ++ n.payload.valueProblems source

/-- The problems of the nodes, the first standing at `source`. -/
def nodeProblems (count : Nat) : Nat → List NodeDefinition → List DefinitionError
  | _, [] => []
  | source, n :: rest => n.problems count source ++ nodeProblems count (source + 1) rest

/-- The problems of the chain heads, the first being that of `event`. -/
def headProblems (count : Nat) : Nat → List UInt16 → List DefinitionError
  | _, [] => []
  | event, head :: rest =>
    problemIf (count ≤ head.toNat) (.invalidValue (.missingHead event head))
      ++ headProblems count (event + 1) rest

/-- The problems of one tile, given the tiles before it. -/
def MapDefinition.tileProblems (d : MapDefinition) (before : List TileDefinition)
    (t : TileDefinition) : List DefinitionError :=
  problemIf (before.any fun u => u.x == t.x && u.y == t.y) (.duplicateTile t.x t.y)
    ++ problemIf (d.width ≤ t.x || d.height ≤ t.y)
      (.invalidValue (.tileOutside t.x t.y d.width d.height))
    ++ problemIf (t.event == 0 || d.chainHeads.length < t.event.toNat)
      (.invalidValue (.unknownTileEvent t.x t.y t.event))

/-- The problems of the tiles that come after `before`. -/
def MapDefinition.tilesProblems (d : MapDefinition) (before : List TileDefinition) :
    List TileDefinition → List DefinitionError
  | [] => []
  | t :: rest => d.tileProblems before t ++ d.tilesProblems (t :: before) rest

/-- **Every problem of a definition**, in order. -/
def MapDefinition.problems (d : MapDefinition) : List DefinitionError :=
  problemIf (d.index == 0) (.invalidValue .reservedMapIndex)
    ++ nodeProblems d.nodes.length 0 d.nodes
    ++ problemIf (eventBitsPerMap < d.chainHeads.length)
      (.invalidValue (.tooManyChains d.chainHeads.length))
    ++ headProblems d.nodes.length 1 d.chainHeads
    ++ d.tilesProblems [] d.tiles

end TileEvents
