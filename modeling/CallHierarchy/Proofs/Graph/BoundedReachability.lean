import CallHierarchy.Proofs.Graph.Growth

/-!
The graph around an anchor is the bounded reachability of the calls. Before the level with number
`n`, the expanded ids are those that fewer than `n` calls reach, and together with the symbols of
the level they are those that at most `n` calls reach; the id of a symbol may come in many levels,
but it is expanded in the first of them, which is its distance from the anchor.
-/

namespace CallHierarchy

namespace Exploration

open Operation

variable {σ Item : Type} {engine : Engine σ Item} {direction : Direction}
variable {answerOf : Item → List (Call Item)} {anchor : NodeId}

/-- The engine answers every query in a direction, in every run, by a function of the symbol, and
symbols with the same id have the same calls up to the ids of the called symbols. -/
structure Answers (engine : Engine σ Item) (direction : Direction)
    (answerOf : Item → List (Call Item)) : Prop where
  performed : ∀ item run, ∃ after,
    (calls engine direction item).perform run = (.ok (answerOf item), after)
  congruent : ∀ left right, (engine.node left).id = (engine.node right).id →
    (answerOf left).map (fun call => ((engine.node call.symbol).id, call.sites)) =
      (answerOf right).map (fun call => ((engine.node call.symbol).id, call.sites))

/-- A symbol with the first id lists a call to one with the second, at the sites. -/
def Lists (engine : Engine σ Item) (answerOf : Item → List (Call Item)) (source target : NodeId)
    (sites : List Location) : Prop :=
  ∃ item, (engine.node item).id = source ∧
    ∃ call ∈ answerOf item, (engine.node call.symbol).id = target ∧ call.sites = sites

/-- The id is reached from the anchor by that many calls. -/
inductive ReachedIn (engine : Engine σ Item) (answerOf : Item → List (Call Item))
    (anchor : NodeId) : Nat → NodeId → Prop where
  | start : ReachedIn engine answerOf anchor 0 anchor
  | call {steps : Nat} {source target : NodeId} {sites : List Location} :
      ReachedIn engine answerOf anchor steps source → Lists engine answerOf source target sites →
      ReachedIn engine answerOf anchor (steps + 1) target

/-- The id is at a distance less than a bound from the anchor. -/
def Below (engine : Engine σ Item) (answerOf : Item → List (Call Item)) (anchor : NodeId)
    (bound : Nat) (id : NodeId) : Prop :=
  ∃ steps, steps < bound ∧ ReachedIn engine answerOf anchor steps id

theorem not_below_zero {id : NodeId} : ¬ Below engine answerOf anchor 0 id := by
  rintro ⟨steps, impossible, _⟩
  exact Nat.not_lt_zero steps impossible

theorem Below.succ
    {bound : Nat} {id : NodeId} (below : Below engine answerOf anchor bound id) :
    Below engine answerOf anchor (bound + 1) id := by
  obtain ⟨steps, less, reached⟩ := below
  exact ⟨steps, Nat.lt_succ_of_lt less, reached⟩

/-- The ids below a bound are the anchor and what those below the bound before it list. -/
theorem below_succ_iff
    {bound : Nat} {id : NodeId} :
    Below engine answerOf anchor (bound + 1) id ↔
      id = anchor ∨
        ∃ source sites, Below engine answerOf anchor bound source ∧
          Lists engine answerOf source id sites := by
  constructor
  · rintro ⟨steps, less, reached⟩
    cases reached with
    | start => exact Or.inl rfl
    | @call steps source _ sites reachedSource listed =>
        exact Or.inr ⟨source, sites, ⟨steps, Nat.lt_of_succ_lt_succ less, reachedSource⟩, listed⟩
  · rintro (rfl | ⟨source, sites, ⟨steps, less, reached⟩, listed⟩)
    · exact ⟨0, Nat.zero_lt_succ bound, ReachedIn.start⟩
    · exact ⟨steps + 1, Nat.succ_lt_succ less, reached.call listed⟩

/-- Every symbol with an id lists all calls of the id. -/
theorem Answers.lists_iff
    (answers : Answers engine direction answerOf) {item : Item} {target : NodeId}
    {sites : List Location} :
    Lists engine answerOf (engine.node item).id target sites ↔
      ∃ call ∈ answerOf item, (engine.node call.symbol).id = target ∧ call.sites = sites := by
  constructor
  · rintro ⟨other, sameId, call, member, targetEq, sitesEq⟩
    have listed : (target, sites) ∈
        (answerOf other).map (fun call => ((engine.node call.symbol).id, call.sites)) :=
      List.mem_map.2 ⟨call, member, Prod.ext targetEq sitesEq⟩
    rw [answers.congruent other item sameId] at listed
    obtain ⟨ownCall, ownMember, ownEq⟩ := List.mem_map.1 listed
    exact ⟨ownCall, ownMember, congrArg Prod.fst ownEq, congrArg Prod.snd ownEq⟩
  · intro listed
    exact ⟨item, rfl, listed⟩

/-- The symbol is reached from another one by that many calls. -/
inductive Leads (answerOf : Item → List (Call Item)) (start : Item) : Nat → Item → Prop where
  | start : Leads answerOf start 0 start
  | call {steps : Nat} {source : Item} {call : Call Item} :
      Leads answerOf start steps source → call ∈ answerOf source →
      Leads answerOf start (steps + 1) call.symbol

/-- The ids that calls reach are those of the symbols that calls reach. -/
theorem Answers.reachedIn_iff
    (answers : Answers engine direction answerOf) {start : Item} {steps : Nat} {id : NodeId} :
    ReachedIn engine answerOf (engine.node start).id steps id ↔
      ∃ item, Leads answerOf start steps item ∧ (engine.node item).id = id := by
  constructor
  · intro reached
    induction reached with
    | start => exact ⟨start, Leads.start, rfl⟩
    | call _ listed inductionHypothesis =>
        obtain ⟨source, leads, rfl⟩ := inductionHypothesis
        obtain ⟨call, member, isTarget, _⟩ := answers.lists_iff.1 listed
        exact ⟨call.symbol, leads.call member, isTarget⟩
  · rintro ⟨item, leads, rfl⟩
    induction leads with
    | start => exact ReachedIn.start
    | @call _ source call _ member inductionHypothesis =>
        exact inductionHypothesis.call ⟨source, rfl, call, member, rfl, rfl⟩

theorem Answers.calls_eq
    (answers : Answers engine direction answerOf) {answer : Answer Item}
    (given : answer.Given engine direction) :
    answer.calls = answerOf answer.item := by
  obtain ⟨run, after, performed⟩ := given
  obtain ⟨otherAfter, otherPerformed⟩ := answers.performed answer.item run
  have sameResult := performed.symm.trans otherPerformed
  exact Except.ok.inj (congrArg Prod.fst sameResult)

section Answered

variable (answers : Answers engine direction answerOf) {given : List (Answer Item)}
  (calls : ∀ answer ∈ given, answer.calls = answerOf answer.item)
include answers calls

/-- What the answers found are the calls of the answered ids. -/
theorem Answers.mem_found_iff
    {id : NodeId} :
    (∃ item ∈ given.flatMap Answer.found, (engine.node item).id = id) ↔
      ∃ answer ∈ given, ∃ sites, Lists engine answerOf (answer.id engine) id sites := by
  constructor
  · rintro ⟨item, member, rfl⟩
    obtain ⟨answer, answerMember, foundHere⟩ := List.mem_flatMap.1 member
    obtain ⟨call, callMember, rfl⟩ := List.mem_map.1 foundHere
    rw [calls answer answerMember] at callMember
    exact ⟨answer, answerMember, call.sites, answers.lists_iff.2 ⟨call, callMember, rfl, rfl⟩⟩
  · rintro ⟨answer, answerMember, sites, listed⟩
    obtain ⟨call, callMember, rfl, _⟩ := answers.lists_iff.1 listed
    rw [← calls answer answerMember] at callMember
    exact ⟨call.symbol,
      List.mem_flatMap.2 ⟨answer, answerMember, List.mem_map_of_mem callMember⟩, rfl⟩

theorem Answers.mem_edges_iff
    {added : CallEdge} :
    added ∈ given.flatMap (Answer.edges engine direction) ↔
      ∃ source ∈ given.map (Answer.id engine), ∃ target sites,
        Lists engine answerOf source target sites ∧
          added = edge direction engine.source source target sites := by
  constructor
  · intro member
    obtain ⟨answer, answerMember, addedHere⟩ := List.mem_flatMap.1 member
    obtain ⟨call, callMember, rfl⟩ := List.mem_map.1 addedHere
    rw [calls answer answerMember] at callMember
    exact ⟨answer.id engine, List.mem_map_of_mem answerMember, (engine.node call.symbol).id,
      call.sites, answers.lists_iff.2 ⟨call, callMember, rfl, rfl⟩, rfl⟩
  · rintro ⟨_, answered, target, sites, listed, rfl⟩
    obtain ⟨answer, answerMember, rfl⟩ := List.mem_map.1 answered
    obtain ⟨call, callMember, rfl, rfl⟩ := answers.lists_iff.1 listed
    rw [← calls answer answerMember] at callMember
    exact List.mem_flatMap.2 ⟨answer, answerMember, List.mem_map_of_mem callMember⟩

end Answered

/-! ## Levels -/

/-- What holds before the level with a number: its symbols complete the expanded ids to those that
are at most that far from the anchor. -/
structure AtLevel (engine : Engine σ Item) (answerOf : Item → List (Call Item)) (start : Item)
    (number : Nat) (frontier : List Item) (answers : List (Answer Item)) : Prop where
  calls : ∀ answer ∈ answers, answer.calls = answerOf answer.item
  led : ∀ item ∈ answers.map Answer.item ++ frontier, ∃ steps, Leads answerOf start steps item
  expanded : ∀ id, id ∈ answers.map (Answer.id engine) ↔
    Below engine answerOf (engine.node start).id number id
  complete : ∀ id, (id ∈ answers.map (Answer.id engine) ∨
      ∃ item ∈ frontier, (engine.node item).id = id) ↔
    Below engine answerOf (engine.node start).id (number + 1) id

theorem atLevel_zero (item : Item) : AtLevel engine answerOf item 0 [item] [] where
  calls := by simp
  led := by
    intro start isItem
    rw [List.mem_singleton.1 isItem]
    exact ⟨0, Leads.start⟩
  expanded id := by simp [not_below_zero]
  complete id := by
    rw [below_succ_iff]
    simp [not_below_zero, eq_comm]

/-- A level that is walked leads to the next one. -/
theorem AtLevel.walked
    (answers : Answers engine direction answerOf) {base : CallGraph} {start : Item} {number : Nat}
    {frontier found : List Item} {earlier more : List (Answer Item)} {next : Progress}
    (level : AtLevel engine answerOf start number frontier earlier)
    (walked : Walked engine direction base earlier frontier more found next) :
    AtLevel engine answerOf start (number + 1) found (earlier ++ more) := by
  have moreCalls : ∀ answer ∈ more, answer.calls = answerOf answer.item := by
    intro answer member
    exact answers.calls_eq (walked.given answer member)
  have nowExpanded : ∀ id, id ∈ (earlier ++ more).map (Answer.id engine) ↔
      Below engine answerOf (engine.node start).id (number + 1) id := by
    intro id
    rw [← walked.explored.mem_expanded, walked.expanded, level.complete]
  refine ⟨?_, ?_, nowExpanded, ?_⟩
  · intro answer member
    rcases List.mem_append.1 member with before | now
    · exact level.calls answer before
    · exact moreCalls answer now
  · apply walked.forall_items level.led
    intro answer member led call called
    rw [moreCalls answer member] at called
    obtain ⟨steps, leads⟩ := led
    exact ⟨steps + 1, leads.call called⟩
  · intro id
    rw [nowExpanded, walked.found, answers.mem_found_iff moreCalls]
    constructor
    · rintro (below | ⟨answer, member, sites, listed⟩)
      · exact below.succ
      · have answerExpanded : answer.id engine ∈ (earlier ++ more).map (Answer.id engine) :=
          List.mem_map_of_mem (List.mem_append_right earlier member)
        exact below_succ_iff.2
          (Or.inr ⟨answer.id engine, sites, (nowExpanded _).1 answerExpanded, listed⟩)
    · intro below
      rcases below_succ_iff.1 below with isAnchor | ⟨source, sites, sourceBelow, listed⟩
      · exact Or.inl (below_succ_iff.2 (Or.inl isAnchor))
      · -- The calls of ids that were expanded in earlier levels are no farther than this level.
        have sourceExpanded := (nowExpanded source).2 sourceBelow
        rw [List.map_append, List.mem_append] at sourceExpanded
        rcases sourceExpanded with before | now
        · have sourceNearer := (level.expanded source).1 before
          exact Or.inl (below_succ_iff.2 (Or.inr ⟨source, sites, sourceNearer, listed⟩))
        · obtain ⟨answer, member, rfl⟩ := List.mem_map.1 now
          exact Or.inr ⟨answer, member, sites, listed⟩

/-! ## Graphs -/

/-- The end that was expanded and the end that was found from it. -/
def ends : Direction → CallEdge → NodeId × NodeId
  | .callers, edge => (edge.callee, edge.caller)
  | .callees, edge => (edge.caller, edge.callee)

/-- The graph and the queries of the exploration of all ids up to a distance. -/
structure BoundedExploration (engine : Engine σ Item) (direction : Direction)
    (answerOf : Item → List (Call Item)) (anchor : NodeId) (depth : Nat) (graph : CallGraph)
    (queries : List (CallQuery Item)) : Prop where
  /-- The nodes are the ids that at most `depth` calls reach. -/
  nodes : ∀ id, graph.containsNode id = true ↔
    ∃ steps, steps ≤ depth ∧ ReachedIn engine answerOf anchor steps id
  /-- Every node is found under its own id. -/
  keyed : ∀ id node, graph.node? id = some node → node.id = id
  /-- The edges are the calls of the ids that fewer than `depth` calls reach. -/
  edges : ∀ source target, (∃ edge ∈ graph.edges, ends direction edge = (source, target)) ↔
    (∃ steps, steps < depth ∧ ReachedIn engine answerOf anchor steps source) ∧
      ∃ sites, Lists engine answerOf source target sites
  /-- No two edges have the same caller and the same callee. -/
  distinct : (graph.edges.map fun edge => (edge.caller, edge.callee)).Nodup
  /-- An edge has the sites of all calls between its ends. -/
  sites : ∀ edge ∈ graph.edges, ∀ site, site ∈ edge.sites ↔
    ∃ sites, Lists engine answerOf (ends direction edge).1 (ends direction edge).2 sites ∧
      site ∈ sites
  /-- No query is in the other direction. -/
  queried : ∀ query ∈ queries, query.direction = direction
  /-- No id is queried twice. -/
  once : (queries.map fun query => (engine.node query.item).id).Nodup
  /-- The queried ids are those that fewer than `depth` calls reach. -/
  asked : ∀ id, id ∈ (queries.map fun query => (engine.node query.item).id) ↔
    ∃ steps, steps < depth ∧ ReachedIn engine answerOf anchor steps id

theorem key_eq_edge_iff
    {present : CallEdge} {source : EdgeSource} {expanded found : NodeId} {sites : List Location} :
    (edge direction source expanded found sites).key = present.key ↔
      ends direction present = (expanded, found) ∧ present.source = source := by
  cases direction <;> grind [edge, ends, CallEdge.key]

theorem sites_edge
    (source : EdgeSource) (expanded found : NodeId) (sites : List Location) :
    (edge direction source expanded found sites).sites = sites := by
  cases direction <;> rfl

section AnsweredEdges

variable {given : List (Answer Item)} {base : CallGraph} {progress : Progress}
  (explored : Explored engine direction base given progress)
include explored

/-- An edge of the graph was there before or belongs to a call of an answer. -/
theorem Explored.edge_cases
    {present : CallEdge} (member : present ∈ progress.graph.edges) :
    present.key ∈ base.edges.map CallEdge.key ∨
      ∃ answer ∈ given, ∃ call ∈ answer.calls,
        ends direction present = (answer.id engine, (engine.node call.symbol).id) ∧
          present.source = engine.source := by
  have keyListed : present.key ∈ progress.graph.edges.map CallEdge.key :=
    List.mem_map_of_mem member
  rw [explored.edges, mem_map_key_mergeEdges] at keyListed
  rcases keyListed with before | keyAdded
  · exact Or.inl before
  · obtain ⟨added, addedMember, sameKey⟩ := List.mem_map.1 keyAdded
    obtain ⟨answer, answerMember, addedHere⟩ := List.mem_flatMap.1 addedMember
    obtain ⟨call, callMember, rfl⟩ := List.mem_map.1 addedHere
    exact Or.inr ⟨answer, answerMember, call, callMember, key_eq_edge_iff.1 sameKey⟩

/-- Every call of an answer has its edge. -/
theorem Explored.exists_edge
    {answer : Answer Item} (answered : answer ∈ given) {call : Call Item}
    (called : call ∈ answer.calls) :
    ∃ present ∈ progress.graph.edges,
      ends direction present = (answer.id engine, (engine.node call.symbol).id) := by
  have added : answer.edgeOf engine direction call ∈
      given.flatMap (Answer.edges engine direction) :=
    List.mem_flatMap.2 ⟨answer, answered, List.mem_map_of_mem called⟩
  have keyListed : (answer.edgeOf engine direction call).key ∈
      progress.graph.edges.map CallEdge.key := by
    rw [explored.edges, mem_map_key_mergeEdges]
    exact Or.inr (List.mem_map_of_mem added)
  obtain ⟨present, member, sameKey⟩ := List.mem_map.1 keyListed
  exact ⟨present, member, (key_eq_edge_iff.1 sameKey.symm).1⟩

end AnsweredEdges

section Edges

variable (answers : Answers engine direction answerOf) {given : List (Answer Item)}
  (calls : ∀ answer ∈ given, answer.calls = answerOf answer.item) {base : CallGraph}
  {progress : Progress} (explored : Explored engine direction base given progress)
include answers calls explored

theorem Explored.ends_of_mem
    (noEdges : base.edges = []) {present : CallEdge} (member : present ∈ progress.graph.edges) :
    present.source = engine.source ∧
      (ends direction present).1 ∈ given.map (Answer.id engine) ∧
      ∃ sites,
        Lists engine answerOf (ends direction present).1 (ends direction present).2 sites := by
  rcases explored.edge_cases member with before | ⟨answer, answered, call, called, endsEq, sourceEq⟩
  · simp [noEdges] at before
  · rw [calls answer answered] at called
    rw [endsEq]
    exact ⟨sourceEq, List.mem_map_of_mem answered, call.sites,
      answers.lists_iff.2 ⟨call, called, rfl, rfl⟩⟩

theorem Explored.mem_of_lists
    {source target : NodeId} {sites : List Location}
    (answered : source ∈ given.map (Answer.id engine))
    (listed : Lists engine answerOf source target sites) :
    ∃ present ∈ progress.graph.edges, ends direction present = (source, target) := by
  obtain ⟨answer, answerMember, rfl⟩ := List.mem_map.1 answered
  obtain ⟨call, called, rfl, _⟩ := answers.lists_iff.1 listed
  rw [← calls answer answerMember] at called
  exact explored.exists_edge answerMember called

theorem Explored.mem_sites_iff
    (noEdges : base.edges = []) {present : CallEdge} (member : present ∈ progress.graph.edges)
    {site : Location} :
    site ∈ present.sites ↔
      ∃ sites, Lists engine answerOf (ends direction present).1 (ends direction present).2 sites ∧
        site ∈ sites := by
  obtain ⟨sourceEq, answered, _⟩ := explored.ends_of_mem answers calls noEdges member
  have siteAdded : site ∈ present.sites ↔
      SiteOf (given.flatMap (Answer.edges engine direction)) present.key site := by
    rw [← siteOf_key_iff explored.wellFormed.distinct member, explored.edges, noEdges,
      siteOf_mergeEdges]
    simp [SiteOf]
  rw [siteAdded]
  constructor
  · rintro ⟨added, addedMember, sameKey, siteMember⟩
    obtain ⟨source, _, target, sites, listed, rfl⟩ := (answers.mem_edges_iff calls).1 addedMember
    rw [sites_edge] at siteMember
    rw [(key_eq_edge_iff.1 sameKey).1]
    exact ⟨sites, listed, siteMember⟩
  · rintro ⟨sites, listed, siteMember⟩
    refine ⟨edge direction engine.source (ends direction present).1 (ends direction present).2
      sites, ?_, key_eq_edge_iff.2 ⟨rfl, sourceEq⟩, ?_⟩
    · exact (answers.mem_edges_iff calls).2 ⟨_, answered, _, sites, listed, rfl⟩
    · rwa [sites_edge]

end Edges

theorem nodup_map_ends
    {source : EdgeSource} {edges : List CallEdge} (distinct : (edges.map CallEdge.key).Nodup)
    (sameSource : ∀ edge ∈ edges, edge.source = source) :
    (edges.map fun edge => (edge.caller, edge.callee)).Nodup := by
  have keys : edges.map CallEdge.key =
      (edges.map fun edge => (edge.caller, edge.callee)).map
        fun pair => (pair.1, pair.2, source) := by
    rw [List.map_map]
    apply List.map_congr_left
    intro edge member
    rw [CallEdge.key, sameSource edge member]
    rfl
  rw [keys] at distinct
  exact distinct.of_map _

/-- The levels before the one with the number of the depth make up the bounded exploration. -/
theorem AtLevel.boundedExploration
    (answers : Answers engine direction answerOf) {item : Item} {depth : Nat}
    {frontier : List Item} {given : List (Answer Item)} {progress : Progress}
    (level : AtLevel engine answerOf item depth frontier given)
    (explored : Explored engine direction (CallGraph.empty.addNode (engine.node item)) given
      progress) :
    BoundedExploration engine direction answerOf (engine.node item).id depth progress.graph
      (given.map (Answer.query direction)) := by
  have noEdges : (CallGraph.empty.addNode (engine.node item)).edges = [] := rfl
  have queriedIds : ((given.map (Answer.query direction)).map fun query =>
      (engine.node query.item).id) = given.map (Answer.id engine) := by
    rw [List.map_map]
    rfl
  refine ⟨?_, explored.wellFormed.keyed, ?_, ?_, ?_, ?_, ?_, ?_⟩
  · intro id
    have anchorOnly : (CallGraph.empty.addNode (engine.node item)).containsNode id = true ↔
        id = (engine.node item).id := by
      rw [CallGraph.containsNode_addNode]
      simp [CallGraph.containsNode, CallGraph.empty, Table.contains]
    have within : (∃ steps, steps ≤ depth ∧
        ReachedIn engine answerOf (engine.node item).id steps id) ↔
        Below engine answerOf (engine.node item).id (depth + 1) id := by
      simp only [Below, Nat.lt_succ_iff]
    rw [explored.nodes, anchorOnly, answers.mem_found_iff level.calls, within, below_succ_iff]
    apply or_congr_right
    constructor
    · rintro ⟨answer, member, sites, listed⟩
      exact ⟨answer.id engine, sites, (level.expanded _).1 (List.mem_map_of_mem member), listed⟩
    · rintro ⟨source, sites, below, listed⟩
      obtain ⟨answer, member, rfl⟩ := List.mem_map.1 ((level.expanded source).2 below)
      exact ⟨answer, member, sites, listed⟩
  · intro source target
    constructor
    · rintro ⟨present, member, endsEq⟩
      obtain ⟨_, answered, listed⟩ := explored.ends_of_mem answers level.calls noEdges member
      rw [endsEq] at answered listed
      exact ⟨(level.expanded source).1 answered, listed⟩
    · rintro ⟨below, sites, listed⟩
      exact explored.mem_of_lists answers level.calls ((level.expanded source).2 below) listed
  · apply nodup_map_ends explored.wellFormed.distinct
    intro present member
    exact (explored.ends_of_mem answers level.calls noEdges member).1
  · intro present member site
    exact explored.mem_sites_iff answers level.calls noEdges member
  · intro query member
    obtain ⟨answer, _, rfl⟩ := List.mem_map.1 member
    rfl
  · rw [queriedIds]
    exact explored.nodup_map_id
  · intro id
    rw [queriedIds]
    exact level.expanded id

theorem Answers.succeeds_traced
    (answers : Answers engine direction answerOf) (item : Item) :
    (calls engine.traced direction item).Succeeds := by
  intro logged
  obtain ⟨run, log, rfl⟩ := logged.exists_withLog
  obtain ⟨after, performed⟩ := answers.performed item run
  refine ⟨answerOf item, after.withLog (log ++ [⟨direction, item⟩]), ?_⟩
  rw [perform_calls_traced, performed]

/-- An exploration that starts on any graph asks for the ids that are not at the bound. -/
theorem Answers.exploreOnto
    (answers : Answers engine direction answerOf) (item : Item) (depth : Nat)
    {base : CallGraph} (wellFormed : base.WellFormed)
    (run : Run σ) (log : List (CallQuery Item)) :
    ∃ graph expanded last given, ∃ after : Run σ,
      (Exploration.exploreFrom engine.traced direction depth item base).perform (run.withLog log) =
        (.ok graph, after.withLog (log ++ given.map (Answer.query direction))) ∧
      Explored engine direction base given ⟨graph, expanded⟩ ∧
      AtLevel engine answerOf item depth last given := by
  obtain ⟨graph, logged, performed⟩ :=
    compositional_explore compositional_succeeds answers.succeeds_traced depth 0 [item] ⟨base, []⟩
      (run.withLog log)
  obtain ⟨given, last, expanded, after, rfl, explored, _, level⟩ :=
    (explored_nil wellFormed).explore
      (fun _ _ _ _ _ _ level walked => AtLevel.walked answers level walked)
      (atLevel_zero item) performed
  rw [Nat.zero_add] at level
  exact ⟨graph, expanded, last, given, after, performed, explored, level⟩

theorem Answers.exploreFrom
    (answers : Answers engine direction answerOf) (item : Item) (depth : Nat) (run : Run σ) :
    ∃ graph queries, ∃ after : Run σ,
      (exploreFrom engine.traced direction depth item
        (CallGraph.empty.addNode (engine.node item))).perform (run.withLog []) =
          (.ok graph, after.withLog queries) ∧
      BoundedExploration engine direction answerOf (engine.node item).id depth graph queries := by
  obtain ⟨graph, _, _, given, after, performed, explored, level⟩ :=
    answers.exploreOnto item depth (CallGraph.wellFormed_empty.addNode (engine.node item)) run []
  exact ⟨graph, given.map (Answer.query direction), after, performed,
    level.boundedExploration answers explored⟩

theorem perform_seed
    {document : Snapshot} {position : Position} {run prepared : Run σ} {item : Item}
    (resolved : (engine.prepare document position).perform run = (.ok (some item), prepared)) :
    (seed engine document position).perform run =
      (.ok (CallGraph.empty.addNode (engine.node item), item), prepared) := by
  rw [seed, perform_bind_of_ok resolved]
  rfl

theorem Answers.seed_explore
    (answers : Answers engine direction answerOf)
    {document : Snapshot} {position : Position} {run prepared : Run σ} {item : Item}
    (resolved : (engine.prepare document position).perform run = (.ok (some item), prepared))
    (depth : Nat) :
    ∃ graph after queries,
      (seed engine document position >>= fun seeded =>
        Exploration.exploreFrom engine direction depth seeded.2 seeded.1).perform run =
          (.ok graph, after) ∧
      (seed engine.traced document position >>= fun seeded =>
        Exploration.exploreFrom engine.traced direction depth seeded.2 seeded.1).perform
          (run.withLog []) = (.ok graph, after.withLog queries) ∧
      BoundedExploration engine direction answerOf (engine.node item).id depth graph queries := by
  have tracedResolved : (engine.traced.prepare document position).perform (run.withLog []) =
      (.ok (some item), prepared.withLog []) := by
    change ((engine.prepare document position).beside).perform (run.withLog []) = _
    rw [perform_beside, resolved]
  obtain ⟨graph, queries, after, performed, bounded⟩ := answers.exploreFrom item depth prepared
  have traced : (seed engine.traced document position >>= fun seeded =>
      Exploration.exploreFrom engine.traced direction depth seeded.2 seeded.1).perform
        (run.withLog []) = (.ok graph, after.withLog queries) := by
    rw [perform_bind_of_ok (perform_seed tracedResolved)]
    exact performed
  exact ⟨graph, after, queries,
    (traces_seed_explore engine direction document position depth).perform_plain traced, traced,
    bounded⟩

/-- The graphs of callees and of callers are the bounded reachability of the calls and of their
converses, and are found with one query for each id that is not at the bound. -/
theorem graphs_are_bounded_reachability
    {engine : Engine σ Item} {incoming outgoing : Item → List (Call Item)}
    (incomingAnswers : Answers engine .callers incoming)
    (outgoingAnswers : Answers engine .callees outgoing)
    {document : Snapshot} {position : Position} {run prepared : Run σ} {item : Item}
    (resolved : (engine.prepare document position).perform run = (.ok (some item), prepared))
    (depth : Nat) :
    (∃ graph after queries,
      (calleesGraph engine document position depth).perform run = (.ok graph, after) ∧
      (calleesGraph engine.traced document position depth).perform (run.withLog []) =
        (.ok graph, after.withLog queries) ∧
      BoundedExploration engine .callees outgoing (engine.node item).id depth graph queries) ∧
    (∃ graph after queries,
      (callersGraph engine document position depth).perform run = (.ok graph, after) ∧
      (callersGraph engine.traced document position depth).perform (run.withLog []) =
        (.ok graph, after.withLog queries) ∧
      BoundedExploration engine .callers incoming (engine.node item).id depth graph queries) := by
  constructor
  · exact outgoingAnswers.seed_explore resolved depth
  · exact incomingAnswers.seed_explore resolved depth

/-- The names of four symbols, the last two of which have the same id. -/
def circleName : Fin 4 → Text
  | 0 => ['a']
  | 1 => ['b']
  | 2 => ['c']
  | 3 => ['c']

def circleNode (item : Fin 4) : CallNode :=
  { name := circleName item
    kind := .function
    uri := ⟨['f'], by decide⟩
    range := ⟨⟨0, 0⟩, ⟨0, 0⟩⟩
    selectionRange := ⟨⟨0, 0⟩, ⟨0, 0⟩⟩
    container := none }

def circleCalls (items : List (Fin 4)) : List (Call (Fin 4)) :=
  items.map fun item => ⟨item, [⟨⟨['f'], by decide⟩, ⟨⟨1, 0⟩, ⟨1, 1⟩⟩⟩]⟩

/-- `a` calls `b`, `b` calls `c` twice, and `c` calls `a` and itself. -/
def circleOutgoing : Fin 4 → List (Call (Fin 4))
  | 0 => circleCalls [1]
  | 1 => circleCalls [2, 3]
  | 2 => circleCalls [0, 2]
  | 3 => circleCalls [0, 3]

def circleIncoming : Fin 4 → List (Call (Fin 4))
  | 0 => circleCalls [2]
  | 1 => circleCalls [0]
  | 2 => circleCalls [1, 3]
  | 3 => circleCalls [1, 2]

def circleEngine : Engine Unit (Fin 4) :=
  { source := .directSearch
    prepare := fun _ _ => pure (some 0)
    incomingCalls := fun item => pure (circleIncoming item)
    outgoingCalls := fun item => pure (circleOutgoing item)
    node := circleNode }

theorem circle_congruent
    {answerOf : Fin 4 → List (Call (Fin 4))}
    (twins : (answerOf 2).map (fun call => ((circleNode call.symbol).id, call.sites)) =
      (answerOf 3).map (fun call => ((circleNode call.symbol).id, call.sites)))
    (left right : Fin 4) (sameId : (circleNode left).id = (circleNode right).id) :
    (answerOf left).map (fun call => ((circleNode call.symbol).id, call.sites)) =
      (answerOf right).map (fun call => ((circleNode call.symbol).id, call.sites)) := by
  have sameName : circleName left = circleName right :=
    List.append_cancel_left (congrArg NodeId.text sameId)
  have sameOrTwins : ∀ left right, circleName left = circleName right →
      left = right ∨ (left = 2 ∧ right = 3) ∨ (left = 3 ∧ right = 2) := by decide
  rcases sameOrTwins left right sameName with rfl | ⟨rfl, rfl⟩ | ⟨rfl, rfl⟩
  · rfl
  · exact twins
  · exact twins.symm

theorem circle_graphs_are_bounded_reachability :
    let document : Snapshot := ⟨⟨['f'], by decide⟩, [], 1, []⟩
    let run : Run Unit := .start () true
    Answers circleEngine .callers circleIncoming ∧ Answers circleEngine .callees circleOutgoing ∧
    (circleEngine.prepare document ⟨0, 0⟩).perform run = (.ok (some 0), run) ∧
    (∃ graph after queries,
      (calleesGraph circleEngine document ⟨0, 0⟩ 2).perform run = (.ok graph, after) ∧
      (calleesGraph circleEngine.traced document ⟨0, 0⟩ 2).perform (run.withLog []) =
        (.ok graph, after.withLog queries) ∧
      BoundedExploration circleEngine .callees circleOutgoing (circleNode 0).id 2 graph queries) ∧
    (∃ graph after queries,
      (callersGraph circleEngine document ⟨0, 0⟩ 2).perform run = (.ok graph, after) ∧
      (callersGraph circleEngine.traced document ⟨0, 0⟩ 2).perform (run.withLog []) =
        (.ok graph, after.withLog queries) ∧
      BoundedExploration circleEngine .callers circleIncoming (circleNode 0).id 2 graph
        queries) := by
  intro document run
  have incomingAnswers : Answers circleEngine .callers circleIncoming :=
    ⟨fun _ run => ⟨run, rfl⟩, circle_congruent rfl⟩
  have outgoingAnswers : Answers circleEngine .callees circleOutgoing :=
    ⟨fun _ run => ⟨run, rfl⟩, circle_congruent rfl⟩
  exact ⟨incomingAnswers, outgoingAnswers, rfl,
    graphs_are_bounded_reachability incomingAnswers outgoingAnswers rfl 2⟩

end Exploration

end CallHierarchy
