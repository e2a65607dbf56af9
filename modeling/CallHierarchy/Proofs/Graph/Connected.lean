import CallHierarchy.Proofs.Graph.Additions
import CallHierarchy.Proofs.Graph.BoundedReachability
import Mathlib.Logic.Relation

/-!
Graphs that hang together. Whatever an engine answers, and whatever ids its symbols have, only the
anchor and symbols that were found from it are expanded: so the ends of every edge are nodes, and a
chain of edges leads from the anchor to every node. An exploration keeps this of the graph on which
it starts, and asks for no id twice.
-/

namespace CallHierarchy

namespace Exploration

open Operation

variable {σ Item : Type} {engine : Engine σ Item} {direction : Direction}

/-- A symbol with the first id was answered, and one with the second was found from it. -/
def Link (engine : Engine σ Item) (answers : List (Answer Item)) (source target : NodeId) : Prop :=
  ∃ answer ∈ answers, answer.id engine = source ∧
    ∃ call ∈ answer.calls, (engine.node call.symbol).id = target

/-- Answers lead from the anchor to every symbol that was answered or comes next. -/
def Led (engine : Engine σ Item) (anchor : NodeId) (frontier : List Item)
    (answers : List (Answer Item)) : Prop :=
  ∀ item ∈ answers.map Answer.item ++ frontier,
    Relation.ReflTransGen (Link engine answers) anchor (engine.node item).id

/-- The next level still hangs on the anchor by chains of answers. -/
theorem Led.walked
    {anchor : NodeId} {base : CallGraph} {frontier found : List Item}
    {earlier more : List (Answer Item)} {next : Progress}
    (led : Led engine anchor frontier earlier)
    (walked : Walked engine direction base earlier frontier more found next) :
    Led engine anchor found (earlier ++ more) := by
  refine walked.forall_items ?_ ?_
  · intro item member
    refine Relation.ReflTransGen.mono ?_ _ _ (led item member)
    intro source target link
    obtain ⟨answer, answered, isLink⟩ := link
    exact ⟨answer, List.mem_append_left more answered, isLink⟩
  · intro answer answered chain call called
    exact chain.tail
      ⟨answer, List.mem_append_right earlier answered, rfl, call, called, rfl⟩

/-- An edge leads from the first id to the second when it is walked in the direction. -/
def Along (graph : CallGraph) (direction : Direction) (source target : NodeId) : Prop :=
  ∃ edge ∈ graph.edges, ends direction edge = (source, target)

/-- The graph has the anchor's node and the nodes at the ends of its edges; its edges are the
engine's, and from the anchor a chain of edges leads to every other node in one of the directions. -/
structure HangsOn (engine : Engine σ Item) (anchor : CallNode) (directions : List Direction)
    (graph : CallGraph) : Prop where
  wellFormed : graph.WellFormed
  anchored : graph.node? anchor.id = some anchor
  joined : ∀ edge ∈ graph.edges,
    graph.containsNode edge.caller = true ∧ graph.containsNode edge.callee = true
  source : ∀ edge ∈ graph.edges, edge.source = engine.source
  chained : ∀ id, graph.containsNode id = true → id ≠ anchor.id →
    ∃ direction ∈ directions, Relation.ReflTransGen (Along graph direction) anchor.id id

theorem hangsOn_anchor
    (engine : Engine σ Item) (anchor : CallNode) :
    HangsOn engine anchor [] (CallGraph.empty.addNode anchor) where
  wellFormed := CallGraph.wellFormed_empty.addNode anchor
  anchored := by rw [CallGraph.node?_addNode, if_pos rfl]
  joined edge member := absurd member List.not_mem_nil
  source edge member := absurd member List.not_mem_nil
  chained id present notAnchor := by
    rcases CallGraph.containsNode_addNode.1 present with isAnchor | inEmpty
    · exact absurd isAnchor notAnchor
    · cases inEmpty

theorem ends_eq_of_key_eq
    {left right : CallEdge} (sameKey : left.key = right.key) (direction : Direction) :
    ends direction left = ends direction right := by
  simp only [CallEdge.key, Prod.mk.injEq] at sameKey
  cases direction <;> simp [ends, sameKey]

theorem and_ends_iff
    (property : NodeId → Prop) (direction : Direction) (edge : CallEdge) :
    (property (ends direction edge).1 ∧ property (ends direction edge).2) ↔
      (property edge.caller ∧ property edge.callee) := by
  cases direction with
  | callers => exact and_comm
  | callees => exact Iff.rfl

section Explored

variable {base : CallGraph} {given : List (Answer Item)} {progress : Progress}
  (explored : Explored engine direction base given progress)
include explored

theorem Explored.containsNode_of_base
    {id : NodeId} (present : base.containsNode id = true) :
    progress.graph.containsNode id = true :=
  (explored.nodes id).2 (Or.inl present)

theorem Explored.containsNode_of_link
    {source target : NodeId} (link : Link engine given source target) :
    progress.graph.containsNode target = true := by
  obtain ⟨answer, answered, _, call, called, isTarget⟩ := link
  apply (explored.nodes target).2
  right
  exact ⟨call.symbol, List.mem_flatMap.2 ⟨answer, answered, List.mem_map_of_mem called⟩, isTarget⟩

theorem Explored.containsNode_of_chain
    {anchor id : NodeId} (anchored : base.containsNode anchor = true)
    (chain : Relation.ReflTransGen (Link engine given) anchor id) :
    progress.graph.containsNode id = true := by
  cases chain with
  | refl => exact explored.containsNode_of_base anchored
  | tail _ link => exact explored.containsNode_of_link link

/-- From a symbol to what was found from it there is an edge. -/
theorem Explored.along_of_link
    {source target : NodeId} (link : Link engine given source target) :
    Along progress.graph direction source target := by
  obtain ⟨answer, answered, rfl, call, called, rfl⟩ := link
  exact explored.exists_edge answered called

theorem Explored.along_of_base
    {other : Direction} {source target : NodeId} (along : Along base other source target) :
    Along progress.graph other source target := by
  obtain ⟨edge, member, endsEq⟩ := along
  have keyListed : edge.key ∈ progress.graph.edges.map CallEdge.key := by
    rw [explored.edges, mem_map_key_mergeEdges]
    exact Or.inl (List.mem_map_of_mem member)
  obtain ⟨merged, mergedMember, sameKey⟩ := List.mem_map.1 keyListed
  exact ⟨merged, mergedMember, (ends_eq_of_key_eq sameKey other).trans endsEq⟩

/-- What hangs on the anchor still does when everything that was answered does. -/
theorem HangsOn.grow
    {anchor : CallNode} {directions : List Direction} {frontier : List Item}
    (hangs : HangsOn engine anchor directions base) (led : Led engine anchor.id frontier given) :
    HangsOn engine anchor (direction :: directions) progress.graph := by
  have anchored : base.containsNode anchor.id = true :=
    CallGraph.containsNode_iff.2 ⟨anchor, hangs.anchored⟩
  have answeredLed : ∀ answer ∈ given,
      Relation.ReflTransGen (Link engine given) anchor.id (answer.id engine) := by
    intro answer answered
    exact led answer.item (List.mem_append_left _ (List.mem_map_of_mem answered))
  -- The expanded end of a new edge is the anchor or was found on the way; the other one is found now.
  have newEnds : ∀ answer ∈ given, ∀ call ∈ answer.calls,
      progress.graph.containsNode (answer.id engine) = true ∧
        progress.graph.containsNode (engine.node call.symbol).id = true := by
    intro answer answered call called
    constructor
    · exact explored.containsNode_of_chain anchored (answeredLed answer answered)
    · exact explored.containsNode_of_link ⟨answer, answered, rfl, call, called, rfl⟩
  refine ⟨explored.wellFormed, explored.kept _ _ hangs.anchored, ?_, ?_, ?_⟩
  · intro edge member
    rcases explored.edge_cases member with before | ⟨answer, answered, call, called, endsEq, _⟩
    · obtain ⟨old, oldMember, sameKey⟩ := List.mem_map.1 before
      simp only [CallEdge.key, Prod.mk.injEq] at sameKey
      obtain ⟨oldCaller, oldCallee⟩ := hangs.joined old oldMember
      rw [← sameKey.1, ← sameKey.2.1]
      exact ⟨explored.containsNode_of_base oldCaller, explored.containsNode_of_base oldCallee⟩
    · apply (and_ends_iff (fun id => progress.graph.containsNode id = true) direction edge).1
      rw [endsEq]
      exact newEnds answer answered call called
  · intro edge member
    rcases explored.edge_cases member with before | ⟨_, _, _, _, _, sourceEq⟩
    · obtain ⟨old, oldMember, sameKey⟩ := List.mem_map.1 before
      simp only [CallEdge.key, Prod.mk.injEq] at sameKey
      rw [← sameKey.2.2]
      exact hangs.source old oldMember
    · exact sourceEq
  · intro id present notAnchor
    rcases (explored.nodes id).1 present with before | ⟨item, member, rfl⟩
    · obtain ⟨other, isExplored, chain⟩ := hangs.chained id before notAnchor
      refine ⟨other, List.mem_cons_of_mem _ isExplored, Relation.ReflTransGen.mono ?_ _ _ chain⟩
      intro source target
      exact explored.along_of_base
    · obtain ⟨answer, answered, foundHere⟩ := List.mem_flatMap.1 member
      obtain ⟨call, called, rfl⟩ := List.mem_map.1 foundHere
      have chain := (answeredLed answer answered).tail ⟨answer, answered, rfl, call, called, rfl⟩
      refine ⟨direction, List.mem_cons_self, Relation.ReflTransGen.mono ?_ _ _ chain⟩
      intro source target
      exact explored.along_of_link

end Explored

/-- The queries are in the given directions, and in no direction an id is asked for twice. -/
structure AskedOnce (engine : Engine σ Item) (directions : List Direction)
    (queries : List (CallQuery Item)) : Prop where
  asked : ∀ query ∈ queries, query.direction ∈ directions
  once : ∀ direction,
    ((queries.filter fun query => query.direction = direction).map fun query =>
      (engine.node query.item).id).Nodup

/-- Queries in a new direction, each for another id, may be added. -/
theorem AskedOnce.append
    {directions : List Direction} {queries : List (CallQuery Item)}
    (before : AskedOnce engine directions queries) (fresh : direction ∉ directions)
    {answers : List (Answer Item)} (distinct : (answers.map (Answer.id engine)).Nodup) :
    AskedOnce engine (direction :: directions)
      (queries ++ answers.map (Answer.query direction)) := by
  constructor
  · intro query member
    rcases List.mem_append.1 member with old | new
    · exact List.mem_cons_of_mem _ (before.asked query old)
    · rw [(mem_map_query.1 new).1]
      exact List.mem_cons_self
  · intro other
    by_cases isNew : direction = other
    · -- No query so far is in the direction that is explored now.
      have noneBefore : (queries.filter fun query => query.direction = other) = [] := by
        rw [List.filter_eq_nil_iff]
        intro query member inDirection
        rw [decide_eq_true_eq, ← isNew] at inDirection
        rw [← inDirection] at fresh
        exact fresh (before.asked query member)
      have allNew : (answers.map (Answer.query direction)).filter
          (fun query => query.direction = other) = answers.map (Answer.query direction) := by
        rw [List.filter_eq_self]
        intro query member
        rw [(mem_map_query.1 member).1, isNew, decide_eq_true_eq]
      rw [List.filter_append, noneBefore, allNew, List.nil_append, List.map_map]
      exact distinct
    · have noneNew : (answers.map (Answer.query direction)).filter
          (fun query => query.direction = other) = [] := by
        rw [List.filter_eq_nil_iff]
        intro query member
        rw [(mem_map_query.1 member).1, decide_eq_true_eq]
        exact isNew
      rw [List.filter_append, noneNew, List.append_nil]
      exact before.once other

/-- One more exploration from the anchor, in a direction that has not been explored yet. -/
theorem HangsOn.exploreFrom
    {anchor : Item} {directions : List Direction} {base graph : CallGraph}
    (hangs : HangsOn engine (engine.node anchor) directions base)
    {queries : List (CallQuery Item)} (askedOnce : AskedOnce engine directions queries)
    (fresh : direction ∉ directions) {depth : Nat} {run : Run σ}
    {after : Run (σ × List (CallQuery Item))}
    (performed : (exploreFrom engine.traced direction depth anchor base).perform
      (run.withLog queries) = (.ok graph, after)) :
    ∃ more, ∃ later : Run σ,
      after = later.withLog more ∧
        HangsOn engine (engine.node anchor) (direction :: directions) graph ∧
        AskedOnce engine (direction :: directions) more := by
  have startLed : Led engine (engine.node anchor).id [anchor] [] := by
    intro item isAnchor
    rw [List.mem_singleton.1 isAnchor]
  obtain ⟨given, last, expanded, later, afterEq, explored, _, led⟩ :=
    @Explored.explore _ _ _ _ _ _ _ (explored_nil hangs.wellFormed)
      (fun _ => Led engine (engine.node anchor).id)
      (fun _ _ _ _ _ _ led walked => led.walked walked) 0 _ _ _ startLed _ _ _ _ performed
  exact ⟨_, later, afterEq, hangs.grow explored led,
    askedOnce.append fresh explored.nodup_map_id⟩

theorem perform_seed_traced_ok
    {document : Snapshot} {position : Position} {run : Run σ} {log : List (CallQuery Item)}
    {start : CallGraph} {anchor : Item} {after : Run (σ × List (CallQuery Item))}
    (performed : (seed engine.traced document position).perform (run.withLog log) =
      (.ok (start, anchor), after)) :
    ∃ prepared : Run σ,
      (engine.prepare document position).perform run = (.ok (some anchor), prepared) ∧
        after = prepared.withLog log ∧
        start = CallGraph.empty.addNode (engine.node anchor) := by
  obtain ⟨symbol, middle, resolved, rest⟩ := perform_bind_ok performed
  change ((engine.prepare document position).beside).perform (run.withLog log) = _ at resolved
  rw [perform_beside, Prod.mk.injEq] at resolved
  cases symbol with
  | none => cases rest
  | some symbol =>
      cases rest
      exact ⟨_, Prod.ext resolved.1 rfl, resolved.2.symm, rfl⟩

theorem map_id_filterMap_node?
    {graph : CallGraph} (wellFormed : graph.WellFormed) (select : CallEdge → NodeId)
    {edges : List CallEdge}
    (present : ∀ edge ∈ edges, graph.containsNode (select edge) = true) :
    (edges.filterMap fun edge => graph.node? (select edge)).map CallNode.id = edges.map select := by
  induction edges with
  | nil => rfl
  | cons edge rest inductionHypothesis =>
      obtain ⟨edgePresent, restPresent⟩ := List.forall_mem_cons.1 present
      obtain ⟨node, found⟩ := CallGraph.containsNode_iff.1 edgePresent
      simp only [List.filterMap_cons, found, List.map_cons, wellFormed.keyed _ node found,
        inductionHypothesis restPresent]

/-- A graph that hangs on its anchor, with one node for each edge at a node on either side, at most
one edge from a node to another, and the queries by which it was found. -/
structure Connected (engine : Engine σ Item) (anchor : CallNode) (directions : List Direction)
    (graph : CallGraph) (queries : List (CallQuery Item)) : Prop
    extends HangsOn engine anchor directions graph where
  callers : ∀ id, (graph.callersOf id).map CallNode.id =
    (graph.edges.filter fun edge => edge.callee = id).map CallEdge.caller
  callees : ∀ id, (graph.calleesOf id).map CallNode.id =
    (graph.edges.filter fun edge => edge.caller = id).map CallEdge.callee
  distinct : (graph.edges.map fun edge => (edge.caller, edge.callee)).Nodup
  queried : AskedOnce engine directions queries

theorem HangsOn.connected
    {anchor : CallNode} {directions : List Direction} {graph : CallGraph}
    (hangs : HangsOn engine anchor directions graph) {queries : List (CallQuery Item)}
    (queried : AskedOnce engine directions queries) :
    Connected engine anchor directions graph queries where
  toHangsOn := hangs
  callers id := by
    rw [CallGraph.callersOf, hangs.wellFormed.incomingEdges_eq]
    apply map_id_filterMap_node? hangs.wellFormed CallEdge.caller
    intro edge member
    exact (hangs.joined edge (List.mem_of_mem_filter member)).1
  callees id := by
    rw [CallGraph.calleesOf, hangs.wellFormed.outgoingEdges_eq]
    apply map_id_filterMap_node? hangs.wellFormed CallEdge.callee
    intro edge member
    exact (hangs.joined edge (List.mem_of_mem_filter member)).2
  distinct := nodup_map_ends hangs.wellFormed.distinct hangs.source
  queried := queried

/-- When the operation gives a graph, there is a symbol at the position, the graph is connected to
its node, and the traced operation gives the same graph with the queries that were made. -/
def GivesConnected (engine : Engine σ Item) (document : Snapshot) (position : Position)
    (directions : List Direction) (plain : Operation σ CallGraph)
    (traced : Operation (σ × List (CallQuery Item)) CallGraph) (run : Run σ) : Prop :=
  ∀ graph after, plain.perform run = (.ok graph, after) →
    ∃ anchor prepared queries,
      (engine.prepare document position).perform run = (.ok (some anchor), prepared) ∧
        traced.perform (run.withLog []) = (.ok graph, after.withLog queries) ∧
        Connected engine (engine.node anchor) directions graph queries

theorem askedOnce_nil (engine : Engine σ Item) : AskedOnce engine [] [] :=
  ⟨by simp, by simp⟩

theorem givesConnected_seed_explore
    (engine : Engine σ Item) (direction : Direction) (document : Snapshot) (position : Position)
    (depth : Nat) (run : Run σ) :
    GivesConnected engine document position [direction]
      (seed engine document position >>= fun seeded =>
        exploreFrom engine direction depth seeded.2 seeded.1)
      (seed engine.traced document position >>= fun seeded =>
        exploreFrom engine.traced direction depth seeded.2 seeded.1) run := by
  intro graph after performed
  obtain ⟨queries, traced⟩ :=
    traces_seed_explore engine direction document position depth run []
  rw [performed] at traced
  obtain ⟨⟨start, anchor⟩, _, seeded, explored⟩ := perform_bind_ok traced
  obtain ⟨prepared, resolved, rfl, rfl⟩ := perform_seed_traced_ok seeded
  obtain ⟨more, later, sameLog, hangs, askedOnce⟩ :=
    (hangsOn_anchor engine (engine.node anchor)).exploreFrom (askedOnce_nil engine)
      List.not_mem_nil explored
  obtain rfl : queries = more := congrArg (fun run => run.state.2) sameLog
  exact ⟨anchor, prepared, queries, resolved, traced, hangs.connected askedOnce⟩

theorem givesConnected_callGraph
    (engine : Engine σ Item) (document : Snapshot) (position : Position) (depth : Nat)
    (run : Run σ) :
    GivesConnected engine document position [.callees, .callers]
      (callGraph engine document position depth)
      (callGraph engine.traced document position depth) run := by
  intro graph after performed
  obtain ⟨queries, traced⟩ := traces_callGraph engine document position depth run []
  rw [performed] at traced
  obtain ⟨⟨start, anchor⟩, _, seeded, explored⟩ := perform_bind_ok traced
  obtain ⟨prepared, resolved, rfl, rfl⟩ := perform_seed_traced_ok seeded
  obtain ⟨callers, _, callersExplored, calleesExplored⟩ := perform_bind_ok explored
  obtain ⟨callersAsked, middle, rfl, callersHang, callersOnce⟩ :=
    (hangsOn_anchor engine (engine.node anchor)).exploreFrom (askedOnce_nil engine)
      List.not_mem_nil callersExplored
  -- The callees are added to the graph of callers, where the anchor's node still is.
  obtain ⟨more, later, sameLog, hangs, askedOnce⟩ :=
    callersHang.exploreFrom callersOnce (by decide) calleesExplored
  obtain rfl : queries = more := congrArg (fun run => run.state.2) sameLog
  exact ⟨anchor, prepared, queries, resolved, traced, hangs.connected askedOnce⟩

/-- For every engine, whatever it answers, whatever ids it gives to its symbols and whatever queries
fail: a graph that is built has the anchor's node and the nodes at both ends of every edge, so the
look-ups of callers and of callees skip no edge; its edges are the engine's and none has the ends of
another; a chain of edges joins every node to the anchor; and in either direction at most one query
was made for each id. -/
theorem built_graphs_are_closed_and_connected
    (engine : Engine σ Item) (document : Snapshot) (position : Position) (depth : Nat)
    (run : Run σ) :
    GivesConnected engine document position [.callees, .callers]
        (callGraph engine document position depth)
        (callGraph engine.traced document position depth) run ∧
      GivesConnected engine document position [.callers]
        (callersGraph engine document position depth)
        (callersGraph engine.traced document position depth) run ∧
      GivesConnected engine document position [.callees]
        (calleesGraph engine document position depth)
        (calleesGraph engine.traced document position depth) run := by
  refine ⟨?_, ?_, ?_⟩
  · exact givesConnected_callGraph engine document position depth run
  · exact givesConnected_seed_explore engine .callers document position depth run
  · exact givesConnected_seed_explore engine .callees document position depth run

/-- Passes the queries for the last symbol on to a host that fails. -/
def failingLast (answers : Fin 4 → List (Call (Fin 4))) :
    Fin 4 → Operation Unit (List (Call (Fin 4)))
  | 3 => throw (.host ⟨.references, [], none⟩)
  | item => pure (answers item)

/-- An engine for which two symbols share an id and every query for the second one fails. -/
def failingTwinEngine : Engine Unit (Fin 4) :=
  { circleEngine with
    incomingCalls := failingLast circleIncoming
    outgoingCalls := failingLast circleOutgoing }

theorem failingTwin_graph_is_closed_and_connected :
    let document : Snapshot := ⟨⟨['f'], by decide⟩, [], 1, []⟩
    let run : Run Unit := .start () true
    let build := callGraph failingTwinEngine document ⟨0, 0⟩ 5
    (failingTwinEngine.node 2).id = (failingTwinEngine.node 3).id ∧
      ((failingTwinEngine.incomingCalls 3).perform run).1.toOption = none ∧
      (build.perform run).1.toOption.map (fun graph => (graph.nodeCount, graph.edgeCount)) =
        some (3, 4) ∧
      ∃ graph after prepared queries,
        build.perform run = (.ok graph, after) ∧
          (failingTwinEngine.prepare document ⟨0, 0⟩).perform run = (.ok (some 0), prepared) ∧
          (callGraph failingTwinEngine.traced document ⟨0, 0⟩ 5).perform (run.withLog []) =
            (.ok graph, after.withLog queries) ∧
          Connected failingTwinEngine (circleNode 0) [.callees, .callers] graph queries := by
  intro document run build
  obtain ⟨graph, after, performed⟩ : ∃ graph after, build.perform run = (.ok graph, after) :=
    ⟨_, _, rfl⟩
  obtain ⟨anchor, prepared, queries, resolved, traced, connected⟩ :=
    (built_graphs_are_closed_and_connected failingTwinEngine document ⟨0, 0⟩ 5 run).1 graph after
      performed
  have isFirst : (0 : Fin 4) = anchor :=
    Option.some.inj (Except.ok.inj (congrArg Prod.fst resolved))
  subst isFirst
  exact ⟨rfl, rfl, by decide +kernel, graph, after, prepared, queries, performed, resolved, traced,
    connected⟩

end Exploration

end CallHierarchy
