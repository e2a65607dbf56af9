import CallHierarchy.Graph.Exploration
import CallHierarchy.Service.Item

/-!
The call hierarchy of every language that a host understands. An item is turned back into the
outline symbol that it describes whenever a client comes back with it.
-/

namespace CallHierarchy.ReferencedService

open Operation

/-- The item of the symbol defined by what stands at a position. -/
def prepare (host : Host) (uri : Uri) (position : Position) : Operation QueryLog (Option Item) := do
  let symbol ← Delegation.prepare host uri position
  return symbol.map ResolvedSymbol.item

def incomingCalls (host : Host) (item : Item) : Operation QueryLog (List ItemCall) := do
  let calls ← Delegation.incomingCalls host item.symbol
  return calls.map fun call => call.toItemCall ResolvedSymbol.item

/-- The callees of an item, which are never known. -/
def outgoingCalls (item : Item) : List ItemCall :=
  (Delegation.outgoingCalls item.symbol).map fun call => call.toItemCall ResolvedSymbol.item

def callersGraph (host : Host) (document : Snapshot) (position : Position) (depth : Nat) :
    Operation QueryLog CallGraph :=
  Exploration.callersGraph (Delegation.engine host) document position depth

end CallHierarchy.ReferencedService
