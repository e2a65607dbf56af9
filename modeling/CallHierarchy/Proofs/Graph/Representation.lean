import CallHierarchy.Graph.Basic
import CallHierarchy.Proofs.FirstSeen
import Mathlib.Data.List.Nodup

/-!
What the tables of a call graph stand for. The two index tables list, for every id, the numbers of
the edges that start and that end in it; so the search for an edge of the same kind looks at every
candidate, and adding an edge is merging it into the list of edges.
-/

namespace CallHierarchy

namespace CallEdge

/-- What tells edges apart: their ends and how they were found. -/
def key (edge : CallEdge) : NodeId × NodeId × EdgeSource :=
  (edge.caller, edge.callee, edge.source)

theorem connectsSame_iff
    (left right : CallEdge) :
    left.connectsSame right = true ↔ left.key = right.key := by
  simp [connectsSame, key, and_assoc]

@[simp] theorem key_absorb (edge other : CallEdge) : (edge.absorb other).key = edge.key :=
  rfl

theorem mem_foldl_addSite
    {candidate : Location} {sites more : List Location} :
    candidate ∈ more.foldl addSite sites ↔ candidate ∈ sites ∨ candidate ∈ more :=
  mem_foldl_addNew

theorem foldl_addSite_of_subset
    {sites more : List Location} (listed : ∀ site ∈ more, site ∈ sites) :
    more.foldl addSite sites = sites := by
  induction more with
  | nil => rfl
  | cons first rest inductionHypothesis =>
      obtain ⟨firstListed, restListed⟩ := List.forall_mem_cons.1 listed
      rw [List.foldl_cons, addSite, if_pos firstListed]
      exact inductionHypothesis restListed

theorem mem_sites_absorb
    {edge other : CallEdge} {site : Location} :
    site ∈ (edge.absorb other).sites ↔ site ∈ edge.sites ∨ site ∈ other.sites :=
  mem_foldl_addSite

end CallEdge

/-- The edges with one more: its sites go to the edge of the same kind, or it comes last. -/
def mergeEdge (edge : CallEdge) : List CallEdge → List CallEdge
  | [] => [edge]
  | first :: rest =>
      if first.key = edge.key then first.absorb edge :: rest else first :: mergeEdge edge rest

theorem map_key_mergeEdge
    (edge : CallEdge) (edges : List CallEdge) :
    (mergeEdge edge edges).map CallEdge.key =
      if edge.key ∈ edges.map CallEdge.key then edges.map CallEdge.key
      else edges.map CallEdge.key ++ [edge.key] := by
  induction edges with
  | nil => simp [mergeEdge]
  | cons first rest inductionHypothesis =>
      by_cases sameKey : first.key = edge.key
      · simp [mergeEdge, sameKey]
      · rw [mergeEdge, if_neg sameKey, List.map_cons, inductionHypothesis]
        by_cases present : edge.key ∈ rest.map CallEdge.key
        · have stillPresent : edge.key ∈ (first :: rest).map CallEdge.key :=
            List.mem_cons_of_mem first.key present
          rw [if_pos present, if_pos stillPresent]
          rfl
        · have absent : edge.key ∉ (first :: rest).map CallEdge.key := by
            rw [List.map_cons, List.mem_cons, not_or]
            exact ⟨Ne.symm sameKey, present⟩
          rw [if_neg present, if_neg absent]
          rfl

theorem nodup_map_key_mergeEdge
    {edges : List CallEdge} (distinct : (edges.map CallEdge.key).Nodup) (edge : CallEdge) :
    ((mergeEdge edge edges).map CallEdge.key).Nodup := by
  rw [map_key_mergeEdge]
  by_cases present : edge.key ∈ edges.map CallEdge.key
  · rw [if_pos present]
    exact distinct
  · rw [if_neg present, ← List.concat_eq_append]
    exact distinct.concat present

theorem mergeEdge_of_absent
    {edge : CallEdge} {edges : List CallEdge}
    (absent : ∀ present ∈ edges, present.key ≠ edge.key) :
    mergeEdge edge edges = edges ++ [edge] := by
  induction edges with
  | nil => rfl
  | cons first rest inductionHypothesis =>
      rw [mergeEdge, if_neg (absent first List.mem_cons_self), List.cons_append,
        inductionHypothesis fun present member =>
          absent present (List.mem_cons_of_mem first member)]

/-- An edge of a kind that is there is absorbed where the first one stands. -/
theorem mergeEdge_of_present
    {edge present : CallEdge} {edges : List CallEdge} {number : Nat}
    (distinct : (edges.map CallEdge.key).Nodup)
    (found : edges[number]? = some present) (sameKey : present.key = edge.key) :
    mergeEdge edge edges = edges.modify number fun old => old.absorb edge := by
  induction edges generalizing number with
  | nil => simp at found
  | cons first rest inductionHypothesis =>
      obtain ⟨firstNotRest, restDistinct⟩ := List.nodup_cons.1 distinct
      cases number with
      | zero =>
          rw [List.getElem?_cons_zero, Option.some_inj] at found
          subst found
          rw [mergeEdge, if_pos sameKey]
          rfl
      | succ number =>
          rw [List.getElem?_cons_succ] at found
          have otherKey : first.key ≠ edge.key := by
            intro firstKey
            apply firstNotRest
            rw [firstKey, ← sameKey]
            exact List.mem_map_of_mem (List.mem_of_getElem? found)
          rw [mergeEdge, if_neg otherKey, inductionHypothesis restDistinct found,
            List.modify_succ_cons]

def mergeEdges (edges more : List CallEdge) : List CallEdge :=
  more.foldl (fun merged edge => mergeEdge edge merged) edges

@[simp] theorem mergeEdges_nil (edges : List CallEdge) : mergeEdges edges [] = edges :=
  rfl

theorem mergeEdges_append
    (edges more last : List CallEdge) :
    mergeEdges edges (more ++ last) = mergeEdges (mergeEdges edges more) last :=
  List.foldl_append

/-- Merged edges are of the kinds that were seen, in the order in which they first were. -/
theorem map_key_mergeEdges
    (edges more : List CallEdge) :
    (mergeEdges edges more).map CallEdge.key =
      (more.map CallEdge.key).foldl addNew (edges.map CallEdge.key) := by
  induction more generalizing edges with
  | nil => rfl
  | cons first rest inductionHypothesis =>
      change (mergeEdges (mergeEdge first edges) rest).map CallEdge.key = _
      rw [inductionHypothesis, map_key_mergeEdge]
      rfl

theorem mem_map_key_mergeEdges
    {edges more : List CallEdge} {key : NodeId × NodeId × EdgeSource} :
    key ∈ (mergeEdges edges more).map CallEdge.key ↔
      key ∈ edges.map CallEdge.key ∨ key ∈ more.map CallEdge.key := by
  rw [map_key_mergeEdges, mem_foldl_addNew]

def SiteOf (edges : List CallEdge) (key : NodeId × NodeId × EdgeSource) (site : Location) : Prop :=
  ∃ edge ∈ edges, edge.key = key ∧ site ∈ edge.sites

theorem siteOf_cons
    {first : CallEdge} {rest : List CallEdge} {key : NodeId × NodeId × EdgeSource}
    {site : Location} :
    SiteOf (first :: rest) key site ↔
      (first.key = key ∧ site ∈ first.sites) ∨ SiteOf rest key site := by
  simp [SiteOf]

theorem siteOf_mergeEdge
    {edge : CallEdge} {edges : List CallEdge} {key : NodeId × NodeId × EdgeSource}
    {site : Location} :
    SiteOf (mergeEdge edge edges) key site ↔
      SiteOf edges key site ∨ (edge.key = key ∧ site ∈ edge.sites) := by
  induction edges with
  | nil => simp [mergeEdge, SiteOf]
  | cons first rest inductionHypothesis =>
      by_cases sameKey : first.key = edge.key
      · rw [mergeEdge, if_pos sameKey, siteOf_cons, siteOf_cons, CallEdge.key_absorb,
          CallEdge.mem_sites_absorb, sameKey, and_or_left, or_right_comm]
      · rw [mergeEdge, if_neg sameKey, siteOf_cons, siteOf_cons, inductionHypothesis, or_assoc]

/-- Merging loses no site and makes none up. -/
theorem siteOf_mergeEdges
    {edges more : List CallEdge} {key : NodeId × NodeId × EdgeSource} {site : Location} :
    SiteOf (mergeEdges edges more) key site ↔ SiteOf edges key site ∨ SiteOf more key site := by
  induction more generalizing edges with
  | nil => simp [SiteOf]
  | cons first rest inductionHypothesis =>
      change SiteOf (mergeEdges (mergeEdge first edges) rest) key site ↔ _
      rw [inductionHypothesis, siteOf_mergeEdge, siteOf_cons, or_assoc]

theorem siteOf_key_iff
    {edges : List CallEdge} (distinct : (edges.map CallEdge.key).Nodup)
    {edge : CallEdge} (member : edge ∈ edges) {site : Location} :
    SiteOf edges edge.key site ↔ site ∈ edge.sites := by
  constructor
  · rintro ⟨other, otherMember, sameKey, listed⟩
    rw [← List.inj_on_of_nodup_map distinct otherMember member sameKey]
    exact listed
  · intro listed
    exact ⟨edge, member, rfl, listed⟩

/-- The places of an id in a list of ids. -/
def placesOf (ends : List NodeId) (id : NodeId) : List Nat :=
  (List.range ends.length).filter fun number => ends[number]? = some id

theorem mem_placesOf
    {ends : List NodeId} {id : NodeId} {number : Nat} :
    number ∈ placesOf ends id ↔ ends[number]? = some id := by
  rw [placesOf, List.mem_filter, List.mem_range, decide_eq_true_iff]
  constructor
  · exact And.right
  · intro found
    exact ⟨(List.getElem?_eq_some_iff.1 found).1, found⟩

theorem placesOf_concat
    (ends : List NodeId) (last id : NodeId) :
    placesOf (ends ++ [last]) id =
      placesOf ends id ++ if last = id then [ends.length] else [] := by
  have earlier : ∀ number ∈ List.range ends.length,
      decide ((ends ++ [last])[number]? = some id) = decide (ends[number]? = some id) := by
    intro number member
    rw [List.getElem?_append_left (List.mem_range.1 member)]
  rw [placesOf, placesOf, List.length_append, List.length_singleton, List.range_succ,
    List.filter_append, List.filter_congr earlier]
  by_cases same : last = id <;> simp [same]

namespace CallGraph

theorem numbersOf_insert
    (index : Table NodeId (List Nat)) (key id : NodeId) (numbers : List Nat) :
    numbersOf (index.insert key numbers) id = if id = key then numbers else numbersOf index id := by
  by_cases same : id = key <;> simp [numbersOf, same]

@[simp] theorem numbersOf_insert_self
    (index : Table NodeId (List Nat)) (key id : NodeId) :
    numbersOf (index.insert key (numbersOf index key)) id = numbersOf index id := by
  rw [numbersOf_insert]
  by_cases same : id = key <;> simp [same]

/-- What holds of every graph that was built up from nothing. -/
structure WellFormed (graph : CallGraph) : Prop where
  /-- The outgoing table has the places of every caller. -/
  outgoing : ∀ id,
    numbersOf graph.outgoingIndex id = placesOf (graph.edges.map CallEdge.caller) id
  /-- The incoming table has the places of every callee. -/
  incoming : ∀ id,
    numbersOf graph.incomingIndex id = placesOf (graph.edges.map CallEdge.callee) id
  /-- No two edges are of the same kind. -/
  distinct : (graph.edges.map CallEdge.key).Nodup
  /-- Nodes are kept under their own ids. -/
  keyed : ∀ id node, graph.node? id = some node → node.id = id

theorem wellFormed_empty : empty.WellFormed where
  outgoing _ := rfl
  incoming _ := rfl
  distinct := List.nodup_nil
  keyed id node found := by simp [node?, empty] at found

theorem node?_addNode
    (graph : CallGraph) (node : CallNode) (id : NodeId) :
    (graph.addNode node).node? id = if id = node.id then some node else graph.node? id :=
  Table.find?_insert graph.nodes node.id id node

theorem containsNode_iff
    {graph : CallGraph} {id : NodeId} :
    graph.containsNode id = true ↔ ∃ node, graph.node? id = some node :=
  Option.isSome_iff_exists

theorem containsNode_addNode
    {graph : CallGraph} {node : CallNode} {id : NodeId} :
    (graph.addNode node).containsNode id = true ↔
      id = node.id ∨ graph.containsNode id = true := by
  simp only [containsNode_iff, node?_addNode]
  by_cases same : id = node.id <;> simp [same]

theorem WellFormed.addNode
    {graph : CallGraph} (wellFormed : graph.WellFormed) (node : CallNode) :
    (graph.addNode node).WellFormed where
  outgoing id := (numbersOf_insert_self graph.outgoingIndex node.id id).trans
    (wellFormed.outgoing id)
  incoming id := (numbersOf_insert_self graph.incomingIndex node.id id).trans
    (wellFormed.incoming id)
  distinct := wellFormed.distinct
  keyed id present found := by
    rw [node?_addNode] at found
    by_cases same : id = node.id
    · rw [if_pos same, Option.some_inj] at found
      rw [← found, same]
    · rw [if_neg same] at found
      exact wellFormed.keyed id present found

@[simp] theorem nodes_addEdge (graph : CallGraph) (edge : CallEdge) :
    (graph.addEdge edge).nodes = graph.nodes := by
  rw [addEdge]
  cases graph.existing? edge <;> rfl

@[simp] theorem node?_addEdge (graph : CallGraph) (edge : CallEdge) (id : NodeId) :
    (graph.addEdge edge).node? id = graph.node? id := by
  rw [node?, node?, nodes_addEdge]

@[simp] theorem containsNode_addEdge (graph : CallGraph) (edge : CallEdge) (id : NodeId) :
    (graph.addEdge edge).containsNode id = graph.containsNode id := by
  rw [containsNode, containsNode, nodes_addEdge]

theorem key_of_existing?
    {graph : CallGraph} {edge : CallEdge} {number : Nat}
    (found : graph.existing? edge = some number) :
    ∃ present, graph.edges[number]? = some present ∧ present.key = edge.key := by
  have tested := List.find?_some found
  cases atNumber : graph.edges[number]? with
  | none => simp [atNumber] at tested
  | some present =>
      rw [atNumber, Option.any_some, CallEdge.connectsSame_iff] at tested
      exact ⟨present, rfl, tested⟩

theorem WellFormed.key_ne_of_existing?
    {graph : CallGraph} (wellFormed : graph.WellFormed) {edge : CallEdge}
    (missing : graph.existing? edge = none) :
    ∀ present ∈ graph.edges, present.key ≠ edge.key := by
  intro present member sameKey
  obtain ⟨number, atNumber⟩ := List.mem_iff_getElem?.1 member
  -- An edge of the same kind has its number among those of the caller, so the search sees it.
  have listed : number ∈ numbersOf graph.outgoingIndex edge.caller := by
    rw [wellFormed.outgoing, mem_placesOf, List.getElem?_map, atNumber, Option.map_some,
      Option.some_inj]
    exact congrArg Prod.fst sameKey
  have rejected := List.find?_eq_none.1 missing number listed
  rw [atNumber, Option.any_some, CallEdge.connectsSame_iff] at rejected
  exact rejected sameKey

/-- Adding an edge is merging it into the edges. -/
theorem WellFormed.edges_addEdge
    {graph : CallGraph} (wellFormed : graph.WellFormed) (edge : CallEdge) :
    (graph.addEdge edge).edges = mergeEdge edge graph.edges := by
  rw [addEdge]
  cases search : graph.existing? edge with
  | none => exact (mergeEdge_of_absent (wellFormed.key_ne_of_existing? search)).symm
  | some number =>
      obtain ⟨present, atNumber, sameKey⟩ := key_of_existing? search
      exact (mergeEdge_of_present wellFormed.distinct atNumber sameKey).symm

theorem numbersOf_insert_end
    {index : Table NodeId (List Nat)} {edges : List CallEdge} {edge : CallEdge}
    (select : CallEdge → NodeId)
    (right : ∀ id, numbersOf index id = placesOf (edges.map select) id) (id : NodeId) :
    numbersOf (index.insert (select edge) (numbersOf index (select edge) ++ [edges.length])) id =
      placesOf ((edges ++ [edge]).map select) id := by
  rw [numbersOf_insert, List.map_append, List.map_singleton, placesOf_concat, List.length_map]
  by_cases same : id = select edge
  · rw [if_pos same, if_pos same.symm, right, same]
  · rw [if_neg same, if_neg (Ne.symm same), List.append_nil, right]

theorem map_modify_absorb
    (select : CallEdge → NodeId) (edges : List CallEdge) (edge : CallEdge) (number : Nat)
    (kept : ∀ present : CallEdge, select (present.absorb edge) = select present) :
    (edges.modify number fun present => present.absorb edge).map select = edges.map select := by
  apply List.ext_getElem?
  intro place
  rw [List.getElem?_map, List.getElem?_map, List.getElem?_modify]
  cases edges[place]? with
  | none => rfl
  | some present => by_cases here : number = place <;> simp [here, kept]

theorem WellFormed.addEdge
    {graph : CallGraph} (wellFormed : graph.WellFormed) (edge : CallEdge) :
    (graph.addEdge edge).WellFormed := by
  refine ⟨?_, ?_, ?_, ?_⟩
  · intro id
    rw [CallGraph.addEdge]
    cases graph.existing? edge with
    | none => exact numbersOf_insert_end CallEdge.caller wellFormed.outgoing id
    | some number =>
        rw [map_modify_absorb CallEdge.caller graph.edges edge number fun _ => rfl]
        exact wellFormed.outgoing id
  · intro id
    rw [CallGraph.addEdge]
    cases graph.existing? edge with
    | none => exact numbersOf_insert_end CallEdge.callee wellFormed.incoming id
    | some number =>
        rw [map_modify_absorb CallEdge.callee graph.edges edge number fun _ => rfl]
        exact wellFormed.incoming id
  · rw [wellFormed.edges_addEdge]
    exact nodup_map_key_mergeEdge wellFormed.distinct edge
  · intro id node found
    rw [node?_addEdge] at found
    exact wellFormed.keyed id node found

end CallGraph

end CallHierarchy
