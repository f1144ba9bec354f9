/-
  TileEvents.Error
  ────────────────
  **WHAT CAN GO WRONG IN A WALK.**

  A rejected interaction is no error.  An error means that the map data do not
  fit together, or that the game answered a node that did not ask.
-/
import TileEvents.Code.EventType
import TileEvents.Node.Id
import TileEvents.Text.Inspect
import TileEvents.Walk.Prompt

namespace TileEvents

/-- Why a node cannot be used. -/
inductive Fault where
  /-- The declared type does not go with the payload, whose type is given. -/
  | mismatch (declared : EventType) (payload : Option EventType)
  /-- There is no such node in a table of this size. -/
  | outsideTable (size : Nat)
  /-- An action sets a facing that does not exist. -/
  | noDirection (index : UInt16)
  /-- An action sets an ailment that does not exist. -/
  | noAilment (index : UInt16)
  /-- A code in the map data stands for nothing. -/
  | badCode (what : String) (code : UInt8)
  /-- The table has more nodes than links can name. -/
  | tableTooLarge
  deriving DecidableEq

/-- An error of a walk. -/
inductive ChainError where
  | corruptData (node : NodeId) (fault : Fault)
  | unknownEvent (event : UInt16)
  | chainLimitExceeded (start : NodeId) (limit : Nat)
  | unexpectedResponse (node : NodeId) (answer : Answer)
  | notSuspendable (node : NodeId)
  deriving DecidableEq

/-- The text of a fault. -/
def Fault.message : Fault → String
  | mismatch declared payload =>
    s!"declared {declared.inspect} but payload is " ++ Text.inspectOption EventType.inspect payload
  | outsideTable size => s!"link outside node table of {size}"
  | noDirection index => s!"invalid direction {index}"
  | noAilment index => s!"invalid ailment {index}"
  | badCode what code => s!"invalid {what} code {code}"
  | tableTooLarge => "node table too large"

namespace ChainError

/-- The text of an error. -/
def message : ChainError → String
  | corruptData node fault => s!"corrupt event data at node {node.text}: {fault.message}"
  | unknownEvent event => s!"event id {event} has no chain on this map"
  | chainLimitExceeded start limit => s!"chain starting at node {start.text} exceeded {limit} steps"
  | unexpectedResponse node answer =>
    s!"node {node.text} cannot continue with response {answer.inspect}"
  | notSuspendable node => s!"node {node.text} does not suspend"

end ChainError

end TileEvents
