import CallHierarchy.Text.Basic

/-!
The ways in which a call hierarchy query fails. Missing data is not a failure: a query without an
answer gives nothing or an empty list.
-/

namespace CallHierarchy

inductive HostOperation where
  | definition
  | references
  | documentSymbols
  deriving DecidableEq, Repr

def HostOperation.label : HostOperation → String
  | definition => "definition"
  | references => "references"
  | documentSymbols => "documentSymbol"

structure HostError where
  operation : HostOperation
  message : Text
  /-- What made the query fail, if the host knows. -/
  cause : Option Text
  deriving DecidableEq, Repr

def HostError.display (error : HostError) : String :=
  s!"host {error.operation.label} query failed: {String.ofList error.message}"

/-- Why a call hierarchy operation failed. -/
inductive GraphError where
  /-- A query of the host failed; its error is passed on unchanged. -/
  | host (error : HostError)
  /-- No symbol was found at a position. -/
  | symbolNotFound (path : Text) (line column : Nat)
  /-- No node has this id. -/
  | nodeNotFound (id : Text)
  deriving DecidableEq, Repr

namespace GraphError

def message : GraphError → String
  | host error => error.display
  | symbolNotFound path line column =>
      s!"no symbol found at {String.ofList path}:{line}:{column}"
  | nodeNotFound id => s!"node not found: {String.ofList id}"

def cause : GraphError → Option Text
  | host error => error.cause
  | _ => none

end GraphError

end CallHierarchy
