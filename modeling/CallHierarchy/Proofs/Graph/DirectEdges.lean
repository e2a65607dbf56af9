import CallHierarchy.Proofs.Engine.GreedySites
import CallHierarchy.Proofs.Graph.DirectGraphs

/-!
Edges between declarations. Whichever end of a call is expanded, a search of bodies gives the same
sites for it; so while ids stand for declarations, an edge that comes a second time has nothing to
add, and every edge lists the sites of its call as the search finds them. This holds of the graph of
the anchor alone, and every call that is added keeps it.
-/

namespace CallHierarchy

namespace CallEdge

theorem absorb_self (edge : CallEdge) : edge.absorb edge = edge := by
  rw [absorb, foldl_addSite_of_subset fun _ member => member]

end CallEdge

theorem mem_of_mem_mergeEdge
    {edge : CallEdge} {edges : List CallEdge}
    (agree : ∀ present ∈ edges, present.key = edge.key → present = edge)
    {member : CallEdge} (merged : member ∈ mergeEdge edge edges) :
    member = edge ∨ member ∈ edges := by
  induction edges with
  | nil => exact Or.inl (List.mem_singleton.1 merged)
  | cons first rest inductionHypothesis =>
      obtain ⟨firstAgrees, restAgree⟩ := List.forall_mem_cons.1 agree
      by_cases sameKey : first.key = edge.key
      · rw [mergeEdge, if_pos sameKey, firstAgrees sameKey, CallEdge.absorb_self] at merged
        exact (List.mem_cons.1 merged).imp_right (List.mem_cons_of_mem first)
      · rw [mergeEdge, if_neg sameKey] at merged
        rcases List.mem_cons.1 merged with rfl | inRest
        · exact Or.inr List.mem_cons_self
        · exact (inductionHypothesis restAgree inRest).imp_right (List.mem_cons_of_mem first)

theorem GreedySites.nodup
    {tree : SyntaxTree} {declaration : Declaration} {name : Text} {sites : List Location}
    (greedy : GreedySites tree declaration name sites) :
    sites.Nodup := by
  refine greedy.increasing.imp ?_
  rintro left right before rfl
  simp [Position.Before] at before

namespace DirectSearch

open Operation Exploration

/-- The edge between two declarations, with the sites that a search of the caller's body finds. -/
def callEdge (workspace : Workspace) (caller callee : Declaration) : CallEdge :=
  { caller := caller.node.id
    callee := callee.node.id
    source := .directSearch
    sites := workspace.callSites caller callee.name }

/-- The declaration is indexed, and the graph has its node. -/
def Shown (workspace : Workspace) (graph : CallGraph) (declaration : Declaration) : Prop :=
  declaration ∈ workspace.index.allFunctions ∧ graph.containsNode declaration.node.id = true

/-- The nodes of the graph are those of declarations, and its edges are the calls between them. -/
structure ShowsCalls (workspace : Workspace) (graph : CallGraph) : Prop where
  wellFormed : graph.WellFormed
  nodes : ∀ id node, graph.node? id = some node →
    ∃ declaration ∈ workspace.index.allFunctions, declaration.node = node
  edges : ∀ edge ∈ graph.edges, ∃ caller callee,
    Shown workspace graph caller ∧ Shown workspace graph callee ∧
      edge = callEdge workspace caller callee ∧ edge.sites ≠ []

/-- A graph that shows calls has grown: it has the nodes of the graph before and those of the
declarations that were found. -/
structure Grown (workspace : Workspace) (before : CallGraph) (found : List Declaration)
    (after : CallGraph) : Prop where
  shows : ShowsCalls workspace after
  kept : ∀ id, before.containsNode id = true → after.containsNode id = true
  found : ∀ declaration ∈ found, Shown workspace after declaration

variable {workspace : Workspace} {direction : Direction} {graph : CallGraph}

theorem Shown.grown
    {before after : CallGraph} {found : List Declaration} {declaration : Declaration}
    (shown : Shown workspace before declaration) (grown : Grown workspace before found after) :
    Shown workspace after declaration :=
  ⟨shown.1, grown.kept _ shown.2⟩

theorem ShowsCalls.grown_self
    (shows : ShowsCalls workspace graph) :
    Grown workspace graph [] graph where
  shows := shows
  kept _ present := present
  found _ member := absurd member List.not_mem_nil

theorem Grown.append
    {before middle after : CallGraph} {found later : List Declaration}
    (first : Grown workspace before found middle) (second : Grown workspace middle later after) :
    Grown workspace before (found ++ later) after where
  shows := second.shows
  kept id present := second.kept id (first.kept id present)
  found declaration member := (List.mem_append.1 member).elim
    (fun before => (first.found declaration before).grown second)
    (fun now => second.found declaration now)

theorem showsCalls_anchor
    {anchor : Declaration} (indexed : anchor ∈ workspace.index.allFunctions) :
    ShowsCalls workspace (CallGraph.empty.addNode anchor.node) where
  wellFormed := CallGraph.wellFormed_empty.addNode anchor.node
  nodes id node found := by
    rw [CallGraph.node?_addNode] at found
    by_cases isAnchor : id = anchor.node.id
    · rw [if_pos isAnchor, Option.some_inj] at found
      exact ⟨anchor, indexed, found⟩
    · rw [if_neg isAnchor] at found
      cases found
  edges edge member := absurd member List.not_mem_nil

/-- Whichever end of a call was expanded, the edge of the call is the one between its ends. -/
theorem exists_callEdge
    {item : Declaration} {call : Call Declaration}
    (called : call ∈ workspace.callsIn direction item) :
    ∃ caller callee, (caller = item ∨ caller = call.symbol) ∧
      (callee = item ∨ callee = call.symbol) ∧
      edge direction engine.source item.node.id call.symbol.node.id call.sites =
        callEdge workspace caller callee ∧
      (callEdge workspace caller callee).sites ≠ [] := by
  cases direction with
  | callers =>
      obtain ⟨_, someSite, sitesEq⟩ := Workspace.mem_incomingCalls.1 called
      refine ⟨call.symbol, item, Or.inr rfl, Or.inl rfl, ?_, ?_⟩
      · rw [callEdge, sitesEq]
        rfl
      · rwa [callEdge, sitesEq]
  | callees =>
      obtain ⟨_, someSite, sitesEq⟩ := Workspace.mem_outgoingCalls.1 called
      refine ⟨item, call.symbol, Or.inl rfl, Or.inr rfl, ?_, ?_⟩
      · rw [callEdge, sitesEq]
        rfl
      · rwa [callEdge, sitesEq]

theorem yields_calls
    (direction : Direction) (item : Declaration) :
    Yields (· = workspace) (· = workspace.callsIn direction item)
      (calls engine direction item) := by
  rintro run rfl
  obtain ⟨events, performed⟩ := perform_calls direction item run
  exact ⟨_, _, performed, keepsState_emit events run, rfl⟩

section DistinctPaths

variable (wellFormed : workspace.WellFormed) (distinctPaths : workspace.DistinctPaths)
include wellFormed distinctPaths

/-- Edges between declarations are of the same kind only if they are equal. -/
theorem callEdge_eq_of_key_eq
    {caller callee otherCaller otherCallee : Declaration}
    (callerShown : Shown workspace graph caller) (calleeShown : Shown workspace graph callee)
    (otherCallerIndexed : otherCaller ∈ workspace.index.allFunctions)
    (otherCalleeIndexed : otherCallee ∈ workspace.index.allFunctions)
    (sameKey : (callEdge workspace caller callee).key =
      (callEdge workspace otherCaller otherCallee).key) :
    callEdge workspace caller callee = callEdge workspace otherCaller otherCallee := by
  have sameCaller : caller = otherCaller :=
    wellFormed.eq_of_id_eq distinctPaths callerShown.1 otherCallerIndexed
      (congrArg Prod.fst sameKey)
  have sameCallee : callee = otherCallee :=
    wellFormed.eq_of_id_eq distinctPaths calleeShown.1 otherCalleeIndexed
      (congrArg (fun key => key.2.1) sameKey)
  rw [sameCaller, sameCallee]

/-- A graph that shows calls still does with one more call of a declaration that it shows. -/
theorem ShowsCalls.addCall
    (shows : ShowsCalls workspace graph) {item : Declaration} (shown : Shown workspace graph item)
    {call : Call Declaration} (called : call ∈ workspace.callsIn direction item) :
    Grown workspace graph [call.symbol]
      (addCall engine direction item.node.id graph call) := by
  obtain ⟨caller, callee, callerEnd, calleeEnd, edgeEq, someSite⟩ := exists_callEdge called
  let next := Exploration.addCall engine direction item.node.id graph call
  have calledIndexed : call.symbol ∈ workspace.index.allFunctions :=
    Workspace.mem_of_mem_callsIn called
  have kept : ∀ id, graph.containsNode id = true → next.containsNode id = true := by
    intro id present
    exact containsNode_addCall.2 (Or.inl present)
  have endShown : ∀ declaration, declaration = item ∨ declaration = call.symbol →
      Shown workspace next declaration := by
    rintro declaration (rfl | rfl)
    · exact ⟨shown.1, kept _ shown.2⟩
    · exact ⟨calledIndexed, containsNode_addCall.2 (Or.inr rfl)⟩
  -- An edge of the same kind is the very edge that is added.
  have agree : ∀ old ∈ graph.edges, old.key = (callEdge workspace caller callee).key →
      old = callEdge workspace caller callee := by
    intro old member
    obtain ⟨oldCaller, oldCallee, oldCallerShown, oldCalleeShown, rfl, _⟩ := shows.edges old member
    exact callEdge_eq_of_key_eq wellFormed distinctPaths oldCallerShown oldCalleeShown
      (endShown caller callerEnd).1 (endShown callee calleeEnd).1
  have edgesEq : next.edges = mergeEdge (callEdge workspace caller callee) graph.edges := by
    rw [← edgeEq]
    exact edges_addCall shows.wellFormed _ call
  refine ⟨⟨wellFormed_addCall shows.wellFormed _ call, ?_, ?_⟩, kept, ?_⟩
  · intro id node found
    rcases node?_addCall found with before | isCalled
    · exact shows.nodes id node before
    · exact ⟨call.symbol, calledIndexed, isCalled⟩
  · intro added member
    change added ∈ next.edges at member
    rw [edgesEq] at member
    rcases mem_of_mem_mergeEdge agree member with rfl | old
    · exact ⟨caller, callee, endShown caller callerEnd, endShown callee calleeEnd, rfl, someSite⟩
    · obtain ⟨oldCaller, oldCallee, ⟨callerIndexed, callerPresent⟩, ⟨calleeIndexed, calleePresent⟩,
        isEdge⟩ := shows.edges added old
      exact ⟨oldCaller, oldCallee, ⟨callerIndexed, kept _ callerPresent⟩,
        ⟨calleeIndexed, kept _ calleePresent⟩, isEdge⟩
  · intro declaration member
    exact endShown declaration (Or.inr (List.mem_singleton.1 member))

theorem ShowsCalls.foldl_addCall
    (shows : ShowsCalls workspace graph) {item : Declaration} (shown : Shown workspace graph item)
    {calls : List (Call Declaration)}
    (called : ∀ call ∈ calls, call ∈ workspace.callsIn direction item) :
    Grown workspace graph (calls.map Call.symbol)
      (calls.foldl (Exploration.addCall engine direction item.node.id) graph) := by
  induction calls generalizing graph with
  | nil => exact shows.grown_self
  | cons call rest inductionHypothesis =>
      obtain ⟨firstCalled, restCalled⟩ := List.forall_mem_cons.1 called
      have first := shows.addCall wellFormed distinctPaths shown firstCalled
      exact first.append (inductionHypothesis first.shows (shown.grown first) restCalled)

/-- Expanding a declaration of the graph draws only calls that the search finds. -/
theorem ShowsCalls.yields_expandItem
    {progress : Progress} (shows : ShowsCalls workspace progress.graph) {item : Declaration}
    (shown : Shown workspace progress.graph item) :
    Yields (· = workspace)
      (fun expanded => Grown workspace progress.graph expanded.1 expanded.2.graph)
      (expandItem engine direction progress item) := by
  by_cases before : (engine.node item).id ∈ progress.expanded
  · rw [expandItem_of_mem engine direction before]
    exact yields_pure shows.grown_self
  · rw [expandItem_of_not_mem engine direction before]
    refine (yields_calls direction item).bind ?_
    rintro _ rfl
    exact yields_pure
      (shows.foldl_addCall wellFormed distinctPaths shown fun _ member => member)

theorem ShowsCalls.yields_expandLevel
    {progress : Progress} (shows : ShowsCalls workspace progress.graph)
    {items : List Declaration} (shown : ∀ item ∈ items, Shown workspace progress.graph item) :
    Yields (· = workspace)
      (fun expanded => Grown workspace progress.graph expanded.1 expanded.2.graph)
      (expandLevel engine direction progress items) := by
  induction items generalizing progress with
  | nil => exact yields_pure shows.grown_self
  | cons item rest inductionHypothesis =>
      obtain ⟨itemShown, restShown⟩ := List.forall_mem_cons.1 shown
      refine (shows.yields_expandItem wellFormed distinctPaths itemShown).bind ?_
      intro first firstGrown
      have stillShown : ∀ other ∈ rest, Shown workspace first.2.graph other :=
        fun other member => (restShown other member).grown firstGrown
      refine (inductionHypothesis firstGrown.shows stillShown).bind ?_
      intro later laterGrown
      exact yields_pure (firstGrown.append laterGrown)

/-- By induction on the levels, an exploration draws only calls that the search finds. -/
theorem ShowsCalls.yields_explore
    (remaining level : Nat) {progress : Progress} (shows : ShowsCalls workspace progress.graph)
    {frontier : List Declaration}
    (shown : ∀ item ∈ frontier, Shown workspace progress.graph item) :
    Yields (· = workspace) (Grown workspace progress.graph [])
      (explore engine direction remaining level frontier progress) := by
  induction remaining generalizing level frontier progress with
  | zero => exact yields_pure shows.grown_self
  | succ remaining inductionHypothesis =>
      cases frontier with
      | nil => exact (yields_emit _).bind fun _ _ => yields_pure shows.grown_self
      | cons item rest =>
          refine (shows.yields_expandLevel wellFormed distinctPaths shown).bind ?_
          intro expanded grown
          refine (yields_emit _).bind fun _ _ => ?_
          refine (inductionHypothesis (level + 1) grown.shows grown.found).imp ?_
          intro graph laterGrown
          exact ⟨laterGrown.shows, fun id present => laterGrown.kept id (grown.kept id present),
            laterGrown.found⟩

theorem ShowsCalls.yields_exploreFrom
    (shows : ShowsCalls workspace graph) (direction : Direction) (depth : Nat)
    {anchor : Declaration} (shown : Shown workspace graph anchor) :
    Yields (· = workspace) (Grown workspace graph [])
      (exploreFrom engine direction depth anchor graph) :=
  ShowsCalls.yields_explore wellFormed distinctPaths depth 0 shows
    (List.forall_mem_singleton.2 shown)

theorem ShowsCalls.node?_eq
    (shows : ShowsCalls workspace graph) {declaration : Declaration}
    (shown : Shown workspace graph declaration) :
    graph.node? declaration.node.id = some declaration.node := by
  obtain ⟨node, found⟩ := CallGraph.containsNode_iff.1 shown.2
  have sameId := shows.wellFormed.keyed _ node found
  obtain ⟨other, indexed, rfl⟩ := shows.nodes _ node found
  rwa [wellFormed.eq_of_id_eq distinctPaths indexed shown.1 sameId] at found

end DistinctPaths

/-- The edge goes from the node of an indexed declaration to the node of one, and its sites are the
copies of the second one's name in the first one's body, from the left without overlap. -/
def CarriesSites (workspace : Workspace) (graph : CallGraph) (edge : CallEdge) : Prop :=
  ∃ tree ∈ workspace.index.trees, ∃ caller ∈ tree.declarations,
    ∃ callee ∈ workspace.index.allFunctions,
      graph.node? edge.caller = some caller.node ∧ graph.node? edge.callee = some callee.node ∧
        edge.sites = tree.callSites caller callee.name ∧
        GreedySites tree caller callee.name edge.sites ∧ edge.sites ≠ [] ∧ edge.sites.Nodup

theorem ShowsCalls.carriesSites
    (wellFormed : workspace.WellFormed) (distinctPaths : workspace.DistinctPaths)
    (fits : ∀ tree ∈ workspace.index.trees, Text.FitsPositions tree.document.text)
    (shows : ShowsCalls workspace graph) {edge : CallEdge} (member : edge ∈ graph.edges) :
    CarriesSites workspace graph edge := by
  obtain ⟨caller, callee, callerShown, calleeShown, rfl, someSite⟩ := shows.edges edge member
  obtain ⟨tree, indexed, declared⟩ := List.mem_flatMap.1 callerShown.1
  have named : IsName callee.name := wellFormed.isName (List.mem_map_of_mem calleeShown.1)
  have greedy : GreedySites tree caller callee.name (workspace.callSites caller callee.name) :=
    wellFormed.greedySites indexed (fits tree indexed) declared named
  exact ⟨tree, indexed, caller, declared, callee, calleeShown.1,
    shows.node?_eq wellFormed distinctPaths callerShown,
    shows.node?_eq wellFormed distinctPaths calleeShown,
    wellFormed.callSites_eq indexed declared callee.name, greedy, someSite, greedy.nodup⟩

def GivesRealEdges (operation : Operation Workspace CallGraph) (run : Run Workspace)
    (workspace : Workspace) : Prop :=
  ∃ graph after, operation.perform run = (.ok graph, after) ∧
    ∀ edge ∈ graph.edges, CarriesSites workspace graph edge

theorem exists_seeded
    {run : Run Workspace} {document : Snapshot} {position : Position} {anchor : Declaration}
    (found : (run.state.index.find document position).1 = some anchor) :
    ∃ middle : Run Workspace,
      middle.state = ⟨run.state.index.perform (.find document position), run.state.held⟩ ∧
      (seed engine document position).perform run =
        (.ok (CallGraph.empty.addNode anchor.node, anchor), middle) := by
  refine ⟨((engine.prepare document position).perform run).2, rfl, perform_seed ?_⟩
  rw [← found]
  rfl

theorem givesRealEdges_of_yields
    (wellFormed : workspace.WellFormed) (distinctPaths : workspace.DistinctPaths)
    (fits : ∀ tree ∈ workspace.index.trees, Text.FitsPositions tree.document.text)
    {run middle : Run Workspace} (settled : middle.state = workspace) {α : Type} {value : α}
    {first : Operation Workspace α} (performed : first.perform run = (.ok value, middle))
    {next : α → Operation Workspace CallGraph}
    (yields : Yields (· = workspace) (Grown workspace graph []) (next value)) :
    GivesRealEdges (first >>= next) run workspace := by
  obtain ⟨drawn, after, nextPerformed, _, grown⟩ := yields middle settled
  refine ⟨drawn, after, (perform_bind_of_ok performed).trans nextPerformed, ?_⟩
  intro edge member
  exact grown.shows.carriesSites wellFormed distinctPaths fits member

/-- Let a position of a document lead to a declaration, in any reachable workspace. While documents
have different paths and their lines and columns can be counted, every edge of the graphs around the
declaration goes from the node of an indexed declaration to the node of one, and its sites are the
copies of the callee's name in the caller's body. -/
theorem graph_edges_carry_call_sites
    {keyword : Keyword} {run : Run Workspace} (reachable : Workspace.Reachable keyword run.state)
    {document : Snapshot} {position : Position} {anchor : Declaration}
    (found : (run.state.index.find document position).1 = some anchor)
    {prepared : Workspace}
    (preparedEq : prepared =
      ⟨run.state.index.perform (.find document position), run.state.held⟩)
    (distinctPaths : prepared.DistinctPaths)
    (fits : ∀ tree ∈ prepared.index.trees, Text.FitsPositions tree.document.text)
    (depth : Nat) :
    GivesRealEdges (callGraph engine document position depth) run prepared ∧
      GivesRealEdges (callersGraph engine document position depth) run prepared ∧
      GivesRealEdges (calleesGraph engine document position depth) run prepared := by
  have wellFormed : prepared.WellFormed := by
    rw [preparedEq]
    exact reachable.wellFormed.perform (.find document position)
  have indexed : anchor ∈ prepared.index.allFunctions := by
    rw [preparedEq]
    exact Workspace.mem_of_find found
  obtain ⟨middle, middleEq, seeded⟩ := exists_seeded found
  have settled : middle.state = prepared := middleEq.trans preparedEq.symm
  let start := CallGraph.empty.addNode anchor.node
  have shows : ShowsCalls prepared start := showsCalls_anchor indexed
  have shown : Shown prepared start anchor :=
    ⟨indexed, CallGraph.containsNode_addNode.2 (Or.inl rfl)⟩
  have explored : ∀ direction, Yields (· = prepared) (Grown prepared start [])
      (exploreFrom engine direction depth anchor start) :=
    fun direction => shows.yields_exploreFrom wellFormed distinctPaths direction depth shown
  refine ⟨?_, ?_, ?_⟩
  · -- The second exploration starts from what the first one drew, where the anchor still is.
    apply givesRealEdges_of_yields wellFormed distinctPaths fits settled seeded
    refine (explored .callers).bind ?_
    intro callers grown
    refine (grown.shows.yields_exploreFrom wellFormed distinctPaths .callees depth
      (shown.grown grown)).imp ?_
    intro both laterGrown
    exact grown.append laterGrown
  · exact givesRealEdges_of_yields wellFormed distinctPaths fits settled seeded (explored .callers)
  · exact givesRealEdges_of_yields wellFormed distinctPaths fits settled seeded (explored .callees)

/-- A document in which `g` calls itself and `h`, and `h` calls `g` twice. -/
def circleDocument : Snapshot :=
  ⟨plainFile, [], 1,
    ['f', ' ', 'g', '\x7b', '\n', 'g', ' ', 'h', '\n', '\x7d', '\n',
      'f', ' ', 'h', '\x7b', '\n', 'g', 'g', '\n', '\x7d']⟩

/-- A run in which a document with functions of the same names has been indexed after it. -/
def circleRun : Run Workspace :=
  .start ⟨(SyntaxIndex.empty ⟨['f'], Eq.refl true⟩).run
    [.ensureTree circleDocument, .ensureTree (twinDocument otherFile)], []⟩ true

theorem circle_edges_carry_call_sites :
    let prepared : Workspace :=
      ⟨circleRun.state.index.perform (.find circleDocument ⟨0, 2⟩), circleRun.state.held⟩
    let anchor := Declaration.ofBlock ⟨['f'], by decide⟩ plainFile ⟨0⟩ ⟨['g'], 0, 2⟩
    Workspace.Reachable ⟨['f'], by decide⟩ circleRun.state ∧
      (circleRun.state.index.find circleDocument ⟨0, 2⟩).1 = some anchor ∧
      prepared.DistinctPaths ∧
      (∀ tree ∈ prepared.index.trees, Text.FitsPositions tree.document.text) ∧
      ((callGraph engine circleDocument ⟨0, 2⟩ 3).perform circleRun).1.toOption.map
        (fun graph => graph.edges.map fun edge => edge.sites.length) = some [1, 2, 1, 1, 1] ∧
      GivesRealEdges (callGraph engine circleDocument ⟨0, 2⟩ 3) circleRun prepared := by
  intro prepared anchor
  have reachable : Workspace.Reachable ⟨['f'], by decide⟩ circleRun.state :=
    Workspace.reachable_run _ _
  have found : (circleRun.state.index.find circleDocument ⟨0, 2⟩).1 = some anchor := by
    decide +kernel
  have distinctPaths : prepared.DistinctPaths := by decide +kernel
  have fits : ∀ tree ∈ prepared.index.trees, Text.FitsPositions tree.document.text := by
    decide +kernel
  exact ⟨reachable, found, distinctPaths, fits, by decide +kernel,
    (graph_edges_carry_call_sites reachable found rfl distinctPaths fits 3).1⟩

end DirectSearch

end CallHierarchy
