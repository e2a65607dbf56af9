import CallHierarchy.Engine.Basic
import CallHierarchy.Graph.Basic

/-!
Call graphs around an anchor, grown level by level. Level by level the symbols found last are
expanded into their callers or their callees; a symbol whose id has been expanded before is passed
over, so recursion and cycles come to an end. Depth zero gives the anchor alone.
-/

namespace CallHierarchy

inductive Direction where
  | callers
  | callees
  deriving DecidableEq, Repr

namespace Exploration

open Operation

def calls {σ Item : Type} (engine : Engine σ Item) (direction : Direction) (item : Item) :
    Operation σ (List (Call Item)) :=
  match direction with
  | .callers => engine.incomingCalls item
  | .callees => engine.outgoingCalls item

/-- The edge between an expanded symbol and one found from it. -/
def edge (direction : Direction) (source : EdgeSource) (expanded found : NodeId)
    (sites : List Location) : CallEdge :=
  match direction with
  | .callers => ⟨found, expanded, source, sites⟩
  | .callees => ⟨expanded, found, source, sites⟩

def levelEvent (direction : Direction) (level discovered : Nat) : Event :=
  { level := .debug
    target := .exploration
    message := match direction with
      | .callers => "expanded callers"
      | .callees => "expanded callees"
    fields := [("level", .number level), ("discovered", .number discovered)] }

/-- The graph so far and the ids that have been expanded. -/
structure Progress where
  graph : CallGraph
  expanded : List NodeId

/-- The graph with a symbol that was found from an expanded one. -/
def addCall {σ Item : Type} (engine : Engine σ Item) (direction : Direction) (expanded : NodeId)
    (graph : CallGraph) (call : Call Item) : CallGraph :=
  let found := engine.node call.symbol
  let withNode := if graph.containsNode found.id then graph else graph.addNode found
  withNode.addEdge (edge direction engine.source expanded found.id call.sites)

/-- Expands one symbol, and gives the symbols found from it. -/
def expandItem {σ Item : Type} (engine : Engine σ Item) (direction : Direction)
    (progress : Progress) (item : Item) : Operation σ (List Item × Progress) := do
  let id := (engine.node item).id
  if id ∈ progress.expanded then
    return ([], progress)
  else
    let found ← calls engine direction item
    let graph := found.foldl (addCall engine direction id) progress.graph
    return (found.map Call.symbol, ⟨graph, id :: progress.expanded⟩)

def expandLevel {σ Item : Type} (engine : Engine σ Item) (direction : Direction) :
    Progress → List Item → Operation σ (List Item × Progress)
  | progress, [] => return ([], progress)
  | progress, item :: rest => do
      let (found, next) ← expandItem engine direction progress item
      let (later, final) ← expandLevel engine direction next rest
      return (found ++ later, final)

/-- Walks `remaining` levels, the first of which has the number `level`. Once no symbol is left,
the remaining levels only report that they found nothing. -/
def explore {σ Item : Type} (engine : Engine σ Item) (direction : Direction) :
    (remaining level : Nat) → List Item → Progress → Operation σ CallGraph
  | 0, _, _, progress => return progress.graph
  | remaining + 1, level, [], progress => do
      emit fun _ => (List.range' level (remaining + 1)).map (levelEvent direction · 0)
      return progress.graph
  | remaining + 1, level, item :: rest, progress => do
      let (found, next) ← expandLevel engine direction progress (item :: rest)
      emit fun _ => [levelEvent direction level found.length]
      explore engine direction remaining (level + 1) found next

def exploreFrom {σ Item : Type} (engine : Engine σ Item) (direction : Direction)
    (depth : Nat) (anchor : Item) (graph : CallGraph) : Operation σ CallGraph :=
  explore engine direction depth 0 [anchor] ⟨graph, []⟩

/-- The symbol at a position, which has to be there, and the graph of it alone. -/
def seed {σ Item : Type} (engine : Engine σ Item) (document : Snapshot) (position : Position) :
    Operation σ (CallGraph × Item) := do
  match ← engine.prepare document position with
  | some anchor => return (CallGraph.empty.addNode (engine.node anchor), anchor)
  | none => throw (.symbolNotFound document.uri.path position.line position.character)

def callersGraph {σ Item : Type} (engine : Engine σ Item) (document : Snapshot)
    (position : Position) (depth : Nat) : Operation σ CallGraph := do
  let (graph, anchor) ← seed engine document position
  exploreFrom engine .callers depth anchor graph

def calleesGraph {σ Item : Type} (engine : Engine σ Item) (document : Snapshot)
    (position : Position) (depth : Nat) : Operation σ CallGraph := do
  let (graph, anchor) ← seed engine document position
  exploreFrom engine .callees depth anchor graph

def callGraph {σ Item : Type} (engine : Engine σ Item) (document : Snapshot)
    (position : Position) (depth : Nat) : Operation σ CallGraph := do
  let (graph, anchor) ← seed engine document position
  let callers ← exploreFrom engine .callers depth anchor graph
  exploreFrom engine .callees depth anchor callers

end Exploration

end CallHierarchy
