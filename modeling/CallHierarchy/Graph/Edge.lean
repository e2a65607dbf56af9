import CallHierarchy.Graph.Node

/-!
Edges of call graphs: one symbol calls another, at certain places, as found in a certain way.
-/

namespace CallHierarchy

inductive EdgeSource where
  /-- By searching bodies for declared names. -/
  | directSearch
  /-- By mapping references to the symbols around them. -/
  | references
  deriving DecidableEq, Repr

def EdgeSource.label : EdgeSource → String
  | directSearch => "direct"
  | references => "references"

/-- A call from one node to another, with all its places. -/
structure CallEdge where
  caller : NodeId
  callee : NodeId
  source : EdgeSource
  sites : List Location
  deriving DecidableEq, Repr

namespace CallEdge

def connectsSame (left right : CallEdge) : Bool :=
  left.caller = right.caller && left.callee = right.callee && left.source = right.source

/-- The sites with one more, unless it is among them. -/
def addSite (sites : List Location) (site : Location) : List Location :=
  if site ∈ sites then sites else sites ++ [site]

/-- The edge with the sites of another that it does not list yet. -/
def absorb (edge other : CallEdge) : CallEdge :=
  { edge with sites := other.sites.foldl addSite edge.sites }

end CallEdge

end CallHierarchy
