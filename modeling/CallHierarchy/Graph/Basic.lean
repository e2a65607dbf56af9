import CallHierarchy.Error
import CallHierarchy.Graph.Edge
import CallHierarchy.Graph.Table

/-!
Call graphs. Edges are kept in the order in which they came, at most one for each caller, callee
and source; another edge of that kind only adds its sites. For each node, two tables give the
numbers of the edges that end and that start in it. An edge may come before its nodes, or without
them.
-/

namespace CallHierarchy

/-- Nodes by id, edges in order, and the edges' numbers by callee and by caller. -/
structure CallGraph where
  nodes : Table NodeId CallNode
  edges : List CallEdge
  incomingIndex : Table NodeId (List Nat)
  outgoingIndex : Table NodeId (List Nat)
  deriving DecidableEq, Repr

namespace CallGraph

def empty : CallGraph :=
  ⟨.empty, [], .empty, .empty⟩

/-- The edge numbers of a node; a node without any has none. -/
def numbersOf (index : Table NodeId (List Nat)) (id : NodeId) : List Nat :=
  (index.find? id).getD []

/-- Adds a node, in place of the node with the same id. -/
def addNode (graph : CallGraph) (node : CallNode) : CallGraph :=
  { graph with
    nodes := graph.nodes.insert node.id node
    incomingIndex := graph.incomingIndex.insert node.id (numbersOf graph.incomingIndex node.id)
    outgoingIndex := graph.outgoingIndex.insert node.id (numbersOf graph.outgoingIndex node.id) }

/-- The number of the edge that joins the same nodes in the same way. -/
def existing? (graph : CallGraph) (edge : CallEdge) : Option Nat :=
  (numbersOf graph.outgoingIndex edge.caller).find? fun number =>
    graph.edges[number]?.any fun candidate => candidate.connectsSame edge

/-- Adds an edge, or its sites to the edge that is there already. -/
def addEdge (graph : CallGraph) (edge : CallEdge) : CallGraph :=
  match graph.existing? edge with
  | some number =>
      { graph with edges := graph.edges.modify number fun present => present.absorb edge }
  | none =>
      let number := graph.edges.length
      { graph with
        edges := graph.edges ++ [edge]
        incomingIndex := graph.incomingIndex.insert edge.callee
          (numbersOf graph.incomingIndex edge.callee ++ [number])
        outgoingIndex := graph.outgoingIndex.insert edge.caller
          (numbersOf graph.outgoingIndex edge.caller ++ [number]) }

def node? (graph : CallGraph) (id : NodeId) : Option CallNode :=
  graph.nodes.find? id

def getNode (graph : CallGraph) (id : NodeId) : Except GraphError CallNode :=
  match graph.node? id with
  | some node => .ok node
  | none => .error (.nodeNotFound id.text)

def containsNode (graph : CallGraph) (id : NodeId) : Bool :=
  graph.nodes.contains id

def nodeCount (graph : CallGraph) : Nat :=
  graph.nodes.size

def edgeCount (graph : CallGraph) : Nat :=
  graph.edges.length

def isEmpty (graph : CallGraph) : Bool :=
  graph.nodeCount = 0

/-- A node whose name or qualified name is the given one. -/
def findByName? (graph : CallGraph) (name : Text) : Option CallNode :=
  graph.nodes.values.find? fun node => node.name = name || node.qualifiedName = name

def incomingEdges (graph : CallGraph) (id : NodeId) : List CallEdge :=
  (numbersOf graph.incomingIndex id).filterMap (graph.edges[·]?)

def outgoingEdges (graph : CallGraph) (id : NodeId) : List CallEdge :=
  (numbersOf graph.outgoingIndex id).filterMap (graph.edges[·]?)

/-- The nodes that call a node, one for each edge. -/
def callersOf (graph : CallGraph) (id : NodeId) : List CallNode :=
  (graph.incomingEdges id).filterMap fun edge => graph.node? edge.caller

def calleesOf (graph : CallGraph) (id : NodeId) : List CallNode :=
  (graph.outgoingEdges id).filterMap fun edge => graph.node? edge.callee

def sortedNodes (graph : CallGraph) : List CallNode :=
  graph.nodes.values.mergeSort fun left right => !decide (right.id.text < left.id.text)

end CallGraph

end CallHierarchy
