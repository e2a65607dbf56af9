import CallHierarchy.Text.Basic

/-!
Events: what the operations report about themselves while they run. An event has a level, the part
that emits it, a message, and fields in a fixed order.
-/

namespace CallHierarchy

/-- How much an event matters, from the most to the least. -/
inductive Level where
  | error
  | warn
  | info
  | debug
  | trace
  deriving DecidableEq, Repr

inductive Target where
  | parser
  | index
  | directSearch
  | delegation
  | exploration
  | service
  deriving DecidableEq, Repr

/-- The name under which a part is filtered and written. -/
def Target.name : Target → String
  | parser => "callscope_syntax::parser"
  | index => "callscope_syntax::index"
  | directSearch => "callscope_graph::direct"
  | delegation => "callscope_graph::delegated"
  | exploration => "callscope_graph::provider"
  | service => "callscope::service"

inductive FieldValue where
  | text (value : Text)
  | number (value : Int)
  deriving DecidableEq, Repr

structure Event where
  level : Level
  target : Target
  message : String
  fields : List (String × FieldValue)
  deriving DecidableEq, Repr

end CallHierarchy
