import CallHierarchy.Proofs.FirstSeen
import CallHierarchy.Proofs.Graph.Representation
import Mathlib.Data.List.Induction

/-!
Graphs built by any sequence of additions. Nodes and edges may come in any order, and an edge may
come before its nodes or without them. The node table, the list of edges and the two index tables
stay in step: both views of the edges of an id are parts of the one list of edges, and every node is
the last one that was added under its id.
-/

namespace CallHierarchy

namespace Table

variable {κ α : Type}

def DistinctKeys (table : Table κ α) : Prop :=
  (table.entries.map Prod.fst).Nodup

theorem distinctKeys_empty : (empty : Table κ α).DistinctKeys :=
  List.nodup_nil

variable [DecidableEq κ]

theorem map_fst_insertEntry
    (key : κ) (value : α) (entries : List (κ × α)) :
    (insertEntry key value entries).map Prod.fst =
      if key ∈ entries.map Prod.fst then entries.map Prod.fst
      else entries.map Prod.fst ++ [key] := by
  induction entries with
  | nil => simp [insertEntry]
  | cons first rest inductionHypothesis =>
      by_cases sameKey : first.1 = key
      · simp [insertEntry, sameKey]
      · rw [insertEntry, if_neg sameKey, List.map_cons, List.map_cons, inductionHypothesis]
        by_cases present : key ∈ rest.map Prod.fst
        · rw [if_pos present, if_pos (List.mem_cons_of_mem first.1 present)]
        · have absent : key ∉ first.1 :: rest.map Prod.fst := by
            rw [List.mem_cons, not_or]
            exact ⟨Ne.symm sameKey, present⟩
          rw [if_neg present, if_neg absent, List.cons_append]

theorem DistinctKeys.insert
    {table : Table κ α} (distinct : table.DistinctKeys) (key : κ) (value : α) :
    (table.insert key value).DistinctKeys := by
  rw [DistinctKeys, Table.insert, map_fst_insertEntry]
  by_cases present : key ∈ table.entries.map Prod.fst
  · rw [if_pos present]
    exact distinct
  · rw [if_neg present, ← List.concat_eq_append]
    exact List.Nodup.concat present distinct

theorem DistinctKeys.find?_of_mem
    {table : Table κ α} (distinct : table.DistinctKeys)
    {entry : κ × α} (member : entry ∈ table.entries) :
    table.find? entry.1 = some entry.2 := by
  cases found : table.entries.find? fun other => other.1 = entry.1 with
  | none =>
      have absent := List.find?_eq_none.1 found entry member
      simp at absent
  | some other =>
      have otherMember := List.mem_of_find?_eq_some found
      have sameKey : other.1 = entry.1 := by simpa using List.find?_some found
      rw [find?, found, Option.map_some,
        List.inj_on_of_nodup_map distinct otherMember member sameKey]

end Table

theorem filterMap_placesOf
    (select : CallEdge → NodeId) (edges : List CallEdge) (id : NodeId) :
    (placesOf (edges.map select) id).filterMap (edges[·]?) =
      edges.filter fun edge => select edge = id := by
  induction edges using List.reverseRecOn with
  | nil => rfl
  | append_singleton edges last inductionHypothesis =>
      have earlier : ∀ number ∈ placesOf (edges.map select) id,
          (edges ++ [last])[number]? = edges[number]? := by
        intro number member
        have found := (List.getElem?_eq_some_iff.1 (mem_placesOf.1 member)).1
        rw [List.length_map] at found
        exact List.getElem?_append_left found
      rw [List.map_append, List.map_singleton, placesOf_concat, List.filterMap_append,
        List.filterMap_congr earlier, inductionHypothesis, List.filter_append, List.length_map]
      by_cases same : select last = id <;> simp [same]

namespace CallGraph

/-- The outgoing table leads to all edges that start in a node, in their order. -/
theorem WellFormed.outgoingEdges_eq
    {graph : CallGraph} (wellFormed : graph.WellFormed) (id : NodeId) :
    graph.outgoingEdges id = graph.edges.filter fun edge => edge.caller = id := by
  rw [outgoingEdges, wellFormed.outgoing]
  exact filterMap_placesOf CallEdge.caller graph.edges id

theorem WellFormed.incomingEdges_eq
    {graph : CallGraph} (wellFormed : graph.WellFormed) (id : NodeId) :
    graph.incomingEdges id = graph.edges.filter fun edge => edge.callee = id := by
  rw [incomingEdges, wellFormed.incoming]
  exact filterMap_placesOf CallEdge.callee graph.edges id

inductive Addition where
  | node (node : CallNode)
  | edge (edge : CallEdge)

def Addition.node? : Addition → Option CallNode
  | .node added => some added
  | .edge _ => none

def Addition.edge? : Addition → Option CallEdge
  | .node _ => none
  | .edge added => some added

def add (graph : CallGraph) : Addition → CallGraph
  | .node node => graph.addNode node
  | .edge edge => graph.addEdge edge

/-- The graph that a sequence of additions leaves. -/
def ofAdditions (additions : List Addition) : CallGraph :=
  additions.foldl add empty

/-- The last node that was added under an id. -/
def lastNode? (additions : List Addition) (id : NodeId) : Option CallNode :=
  (additions.filterMap Addition.node?).reverse.find? fun node => node.id = id

theorem ofAdditions_concat
    (additions : List Addition) (last : Addition) :
    ofAdditions (additions ++ [last]) = (ofAdditions additions).add last :=
  List.foldl_concat _ _ _ _

theorem lastNode?_concat_node
    (additions : List Addition) (node : CallNode) (id : NodeId) :
    lastNode? (additions ++ [.node node]) id =
      if id = node.id then some node else lastNode? additions id := by
  have added : (additions ++ [Addition.node node]).filterMap Addition.node? =
      additions.filterMap Addition.node? ++ [node] := by
    rw [List.filterMap_append]
    rfl
  rw [lastNode?, added, List.reverse_concat, List.find?_cons]
  by_cases same : node.id = id
  · simp [same]
  · simp [same, Ne.symm same, lastNode?]

theorem lastNode?_concat_edge
    (additions : List Addition) (edge : CallEdge) (id : NodeId) :
    lastNode? (additions ++ [.edge edge]) id = lastNode? additions id := by
  have added : (additions ++ [Addition.edge edge]).filterMap Addition.node? =
      additions.filterMap Addition.node? := by
    rw [List.filterMap_append]
    exact List.append_nil _
  rw [lastNode?, added, lastNode?]

/-- How the four parts of a graph hang together after a sequence of additions. -/
structure BuiltBy (additions : List Addition) (graph : CallGraph) : Prop where
  wellFormed : graph.WellFormed
  nodeKeys : graph.nodes.DistinctKeys
  incomingKeys : graph.incomingIndex.DistinctKeys
  outgoingKeys : graph.outgoingIndex.DistinctKeys
  /-- The edges come in the order in which the first of their kind was added. -/
  kinds : graph.edges.map CallEdge.key =
    ((additions.filterMap Addition.edge?).map CallEdge.key).eraseDups
  /-- A node is the last one that was added under its id. -/
  lastNode : ∀ id, graph.node? id = lastNode? additions id

theorem builtBy_nil : BuiltBy [] empty where
  wellFormed := wellFormed_empty
  nodeKeys := Table.distinctKeys_empty
  incomingKeys := Table.distinctKeys_empty
  outgoingKeys := Table.distinctKeys_empty
  kinds := rfl
  lastNode _ := rfl

theorem BuiltBy.addNode
    {additions : List Addition} {graph : CallGraph} (built : BuiltBy additions graph)
    (node : CallNode) :
    BuiltBy (additions ++ [.node node]) (graph.addNode node) where
  wellFormed := built.wellFormed.addNode node
  nodeKeys := built.nodeKeys.insert _ _
  incomingKeys := built.incomingKeys.insert _ _
  outgoingKeys := built.outgoingKeys.insert _ _
  kinds := by
    rw [List.filterMap_append]
    exact built.kinds.trans (by rw [List.filterMap_cons_none rfl, List.filterMap_nil,
      List.append_nil])
  lastNode id := by
    rw [node?_addNode, lastNode?_concat_node, built.lastNode]

/-- What holds after a sequence of additions holds after one more edge. -/
theorem BuiltBy.addEdge
    {additions : List Addition} {graph : CallGraph} (built : BuiltBy additions graph)
    (edge : CallEdge) :
    BuiltBy (additions ++ [.edge edge]) (graph.addEdge edge) where
  wellFormed := built.wellFormed.addEdge edge
  nodeKeys := by
    rw [nodes_addEdge]
    exact built.nodeKeys
  incomingKeys := by
    rw [CallGraph.addEdge]
    cases graph.existing? edge with
    | none => exact built.incomingKeys.insert _ _
    | some number => exact built.incomingKeys
  outgoingKeys := by
    rw [CallGraph.addEdge]
    cases graph.existing? edge with
    | none => exact built.outgoingKeys.insert _ _
    | some number => exact built.outgoingKeys
  kinds := by
    have added : (additions ++ [Addition.edge edge]).filterMap Addition.edge? =
        additions.filterMap Addition.edge? ++ [edge] := by
      rw [List.filterMap_append]
      rfl
    rw [built.wellFormed.edges_addEdge, map_key_mergeEdge, added, List.map_append,
      List.map_singleton, eraseDups_concat, built.kinds]
    simp only [List.mem_eraseDups]
  lastNode id := by
    rw [node?_addEdge, lastNode?_concat_edge, built.lastNode]

/-- By induction on the last addition, the parts hang together after every sequence. -/
theorem builtBy_ofAdditions
    (additions : List Addition) :
    BuiltBy additions (ofAdditions additions) := by
  induction additions using List.reverseRecOn with
  | nil => exact builtBy_nil
  | append_singleton additions last inductionHypothesis =>
      rw [ofAdditions_concat]
      cases last with
      | node node => exact inductionHypothesis.addNode node
      | edge edge => exact inductionHypothesis.addEdge edge

/-- What can be seen of a graph after a sequence of additions. -/
structure InStep (additions : List Addition) (graph : CallGraph) : Prop where
  /-- No two edges agree on caller, callee and source. -/
  distinct : graph.edges.Pairwise fun left right =>
    ¬ (left.caller = right.caller ∧ left.callee = right.callee ∧ left.source = right.source)
  /-- Edges are kept in the order in which the first of their kind was added. -/
  inOrder : graph.edges.map CallEdge.key =
    ((additions.filterMap Addition.edge?).map CallEdge.key).eraseDups
  outgoing : ∀ id, graph.outgoingEdges id = graph.edges.filter fun edge => edge.caller = id
  incoming : ∀ id, graph.incomingEdges id = graph.edges.filter fun edge => edge.callee = id
  /-- The index tables hold numbers of edges only. -/
  inBounds : ∀ entry ∈ graph.incomingIndex.entries ++ graph.outgoingIndex.entries,
    ∀ number ∈ entry.2, number < graph.edges.length
  /-- Every node is kept under its own id, and is the last one that was added under it. -/
  stored : ∀ entry ∈ graph.nodes.entries,
    entry.2.id = entry.1 ∧ lastNode? additions entry.1 = some entry.2
  lastNode : ∀ id, graph.node? id = lastNode? additions id
  callers : ∀ id, graph.callersOf id =
    (graph.edges.filter fun edge => edge.callee = id).filterMap fun edge =>
      graph.node? edge.caller
  callees : ∀ id, graph.calleesOf id =
    (graph.edges.filter fun edge => edge.caller = id).filterMap fun edge =>
      graph.node? edge.callee

theorem lt_length_of_mem_index
    {edges : List CallEdge} (select : CallEdge → NodeId) {index : Table NodeId (List Nat)}
    (keys : index.DistinctKeys)
    (places : ∀ id, numbersOf index id = placesOf (edges.map select) id)
    {entry : NodeId × List Nat} (member : entry ∈ index.entries)
    {number : Nat} (listed : number ∈ entry.2) :
    number < edges.length := by
  have numbersEq : numbersOf index entry.1 = entry.2 := by
    rw [numbersOf, keys.find?_of_mem member, Option.getD_some]
  rw [← numbersEq, places, mem_placesOf] at listed
  have bound := (List.getElem?_eq_some_iff.1 listed).1
  rwa [List.length_map] at bound

/-- After every sequence of additions of nodes and edges, in whatever order, the node table, the list
of edges and the two index tables are in step. -/
theorem ofAdditions_inStep
    (additions : List Addition) :
    InStep additions (ofAdditions additions) := by
  have built := builtBy_ofAdditions additions
  have wellFormed := built.wellFormed
  refine
    { distinct := ?_
      inOrder := built.kinds
      outgoing := wellFormed.outgoingEdges_eq
      incoming := wellFormed.incomingEdges_eq
      inBounds := ?_
      stored := ?_
      lastNode := built.lastNode
      callers := ?_
      callees := ?_ }
  · refine (List.pairwise_map.1 wellFormed.distinct).imp ?_
    rintro left right different ⟨sameCaller, sameCallee, sameSource⟩
    apply different
    rw [CallEdge.key, CallEdge.key, sameCaller, sameCallee, sameSource]
  · intro entry member number listed
    rcases List.mem_append.1 member with inIncoming | inOutgoing
    · exact lt_length_of_mem_index CallEdge.callee built.incomingKeys wellFormed.incoming
        inIncoming listed
    · exact lt_length_of_mem_index CallEdge.caller built.outgoingKeys wellFormed.outgoing
        inOutgoing listed
  · intro entry member
    have found : (ofAdditions additions).node? entry.1 = some entry.2 :=
      built.nodeKeys.find?_of_mem member
    exact ⟨wellFormed.keyed entry.1 entry.2 found, by rw [← built.lastNode, found]⟩
  · intro id
    rw [callersOf, wellFormed.incomingEdges_eq]
  · intro id
    rw [calleesOf, wellFormed.outgoingEdges_eq]

end CallGraph

end CallHierarchy
