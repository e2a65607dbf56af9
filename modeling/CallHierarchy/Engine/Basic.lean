import CallHierarchy.Operation
import CallHierarchy.Document.Snapshot
import CallHierarchy.Graph.Edge

/-!
Engines: ways to find out who calls whom. An engine has symbols of its own, resolves a position to
one of them and lists the calls into and out of it.
-/

namespace CallHierarchy

/-- The symbol on the other side of a call, with the places of the call. -/
structure Call (Item : Type) where
  symbol : Item
  sites : List Location
  deriving DecidableEq, Repr

/-- A way to find out who calls whom, by operations on a state of type `σ`. -/
structure Engine (σ Item : Type) where
  /-- How the engine's edges are marked. -/
  source : EdgeSource
  /-- The symbol at a position of a document. -/
  prepare : Snapshot → Position → Operation σ (Option Item)
  /-- The callers of a symbol. -/
  incomingCalls : Item → Operation σ (List (Call Item))
  /-- The symbols that a symbol calls. -/
  outgoingCalls : Item → Operation σ (List (Call Item))
  /-- The graph node of a symbol. -/
  node : Item → CallNode

end CallHierarchy
