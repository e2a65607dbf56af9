import CallHierarchy.Proofs.Graph.BoundedReachability

/-!
Graphs of callers and callees together. Which symbols an exploration expands, and in which order,
does not depend on the graph that it adds to: the answers that it gets are those of a search without
any graph. So the callees that are added to a graph of callers are those of the graph of callees
alone, and the graph of both is the union of the two.
-/

namespace CallHierarchy

/-- The last graph is the union of the other two. -/
structure IsUnion (left right both : CallGraph) : Prop where
  ids : ∀ id, both.containsNode id = true ↔
    left.containsNode id = true ∨ right.containsNode id = true
  /-- A node that both have is the one of the first graph. -/
  nodes : ∀ id, both.node? id = (left.node? id).or (right.node? id)
  /-- The edges of the first graph come first, then the other edges of the second. -/
  kinds : both.edges.map CallEdge.key =
    left.edges.map CallEdge.key ++
      (right.edges.map CallEdge.key).filter fun key => key ∉ left.edges.map CallEdge.key
  sites : ∀ edge ∈ both.edges, ∀ site, site ∈ edge.sites ↔
    SiteOf left.edges edge.key site ∨ SiteOf right.edges edge.key site

namespace Exploration

open Operation

variable {σ Item : Type} {engine : Engine σ Item} {direction : Direction}
variable {holds : σ → Prop} {answerOf : Item → List (Call Item)}

/-- While the state has a property, the engine answers every query in a direction, by a function of
the symbol. -/
def AnswersBy (holds : σ → Prop) (engine : Engine σ Item) (direction : Direction)
    (answerOf : Item → List (Call Item)) : Prop :=
  ∀ item, Yields holds (· = answerOf item) (calls engine direction item)

def levelAnswers (engine : Engine σ Item) (answerOf : Item → List (Call Item)) :
    (expanded : List NodeId) → List Item → List (Answer Item)
  | _, [] => []
  | expanded, item :: rest =>
      if (engine.node item).id ∈ expanded then
        levelAnswers engine answerOf expanded rest
      else
        ⟨item, answerOf item⟩ ::
          levelAnswers engine answerOf ((engine.node item).id :: expanded) rest

def expandedAfter (engine : Engine σ Item) (expanded : List NodeId) (answers : List (Answer Item)) :
    List NodeId :=
  (answers.map (Answer.id engine)).reverse ++ expanded

def searchAnswers (engine : Engine σ Item) (answerOf : Item → List (Call Item)) :
    (levels : Nat) → (expanded : List NodeId) → List Item → List (Answer Item)
  | 0, _, _ => []
  | levels + 1, expanded, frontier =>
      let more := levelAnswers engine answerOf expanded frontier
      more ++ searchAnswers engine answerOf levels (expandedAfter engine expanded more)
        (more.flatMap Answer.found)

theorem searchAnswers_nil
    (levels : Nat) (expanded : List NodeId) :
    searchAnswers engine answerOf levels expanded [] = [] := by
  induction levels with
  | zero => rfl
  | succ levels inductionHypothesis => exact inductionHypothesis

/-- The graph with the symbols and the edges of some answers. -/
def grown (engine : Engine σ Item) (direction : Direction) (base : CallGraph)
    (answers : List (Answer Item)) : CallGraph :=
  answers.foldl
    (fun graph answer => answer.calls.foldl (addCall engine direction (answer.id engine)) graph)
    base

theorem grown_append
    (base : CallGraph) (answers more : List (Answer Item)) :
    grown engine direction base (answers ++ more) =
      grown engine direction (grown engine direction base answers) more :=
  List.foldl_append

theorem wellFormed_grown
    {base : CallGraph} (wellFormed : base.WellFormed) (answers : List (Answer Item)) :
    (grown engine direction base answers).WellFormed := by
  induction answers generalizing base with
  | nil => exact wellFormed
  | cons answer rest inductionHypothesis =>
      exact inductionHypothesis
        (foldl_addCall engine direction wellFormed (answer.id engine) answer.calls).1

theorem edges_grown
    {base : CallGraph} (wellFormed : base.WellFormed) (answers : List (Answer Item)) :
    (grown engine direction base answers).edges =
      mergeEdges base.edges (answers.flatMap (Answer.edges engine direction)) := by
  induction answers generalizing base with
  | nil => rfl
  | cons answer rest inductionHypothesis =>
      obtain ⟨nextWellFormed, _, _, nextEdges⟩ :=
        foldl_addCall engine direction wellFormed (answer.id engine) answer.calls
      rw [List.flatMap_cons, mergeEdges_append]
      refine (inductionHypothesis nextWellFormed).trans ?_
      rw [nextEdges]
      rfl

def firstNode? (nodes : List CallNode) (id : NodeId) : Option CallNode :=
  nodes.find? fun node => node.id = id

theorem firstNode?_append
    (nodes more : List CallNode) (id : NodeId) :
    firstNode? (nodes ++ more) id = (firstNode? nodes id).or (firstNode? more id) :=
  List.find?_append

theorem node?_addCall_eq
    (graph : CallGraph) (expanded : NodeId) (call : Call Item) (id : NodeId) :
    (addCall engine direction expanded graph call).node? id =
      (graph.node? id).or (firstNode? [engine.node call.symbol] id) := by
  cases found : graph.node? id with
  | some node => rw [node?_addCall_of_some found, Option.some_or]
  | none =>
      rw [addCall, CallGraph.node?_addEdge, Option.none_or, firstNode?, List.find?_singleton]
      by_cases isCalled : (engine.node call.symbol).id = id
      · have absent : ¬ graph.containsNode (engine.node call.symbol).id = true := by
          rw [isCalled, CallGraph.containsNode_iff, found]
          simp
        rw [if_neg absent, CallGraph.node?_addNode, if_pos isCalled.symm]
        simp [isCalled]
      · split
        · simp [found, isCalled]
        · rw [CallGraph.node?_addNode, if_neg (Ne.symm isCalled)]
          simp [found, isCalled]

theorem node?_foldl_addCall
    (graph : CallGraph) (expanded : NodeId) (calls : List (Call Item)) (id : NodeId) :
    (calls.foldl (addCall engine direction expanded) graph).node? id =
      (graph.node? id).or (firstNode? (calls.map fun call => engine.node call.symbol) id) := by
  induction calls generalizing graph with
  | nil => simp [firstNode?]
  | cons call rest inductionHypothesis =>
      rw [List.foldl_cons, inductionHypothesis, node?_addCall_eq, Option.or_assoc,
        ← firstNode?_append]
      rfl

/-- A node comes only where there was none, and stays. -/
theorem node?_grown
    (base : CallGraph) (answers : List (Answer Item)) (id : NodeId) :
    (grown engine direction base answers).node? id =
      (base.node? id).or (firstNode? ((answers.flatMap Answer.found).map engine.node) id) := by
  induction answers generalizing base with
  | nil => simp [grown, firstNode?]
  | cons answer rest inductionHypothesis =>
      refine (inductionHypothesis _).trans ?_
      rw [node?_foldl_addCall, Option.or_assoc, ← firstNode?_append, List.flatMap_cons,
        List.map_append, Answer.found, List.map_map]
      rfl

/-- Answers that are added to a graph of other answers make the union of what both make alone. -/
theorem isUnion_grown
    (engine : Engine σ Item) (direction other : Direction) {base : CallGraph}
    (wellFormed : base.WellFormed) (noEdges : base.edges = [])
    (answers more : List (Answer Item)) :
    IsUnion (grown engine direction base answers) (grown engine other base more)
      (grown engine other (grown engine direction base answers) more) := by
  have leftWellFormed : (grown engine direction base answers).WellFormed :=
    wellFormed_grown wellFormed answers
  have rightEdges : (grown engine other base more).edges =
      mergeEdges [] (more.flatMap (Answer.edges engine other)) := by
    rw [edges_grown wellFormed, noEdges]
  have bothEdges : (grown engine other (grown engine direction base answers) more).edges =
      mergeEdges (grown engine direction base answers).edges
        (more.flatMap (Answer.edges engine other)) :=
    edges_grown leftWellFormed more
  have nodes : ∀ id, (grown engine other (grown engine direction base answers) more).node? id =
      ((grown engine direction base answers).node? id).or
        ((grown engine other base more).node? id) := by
    intro id
    -- what the base has, the first graph has already
    rw [node?_grown, node?_grown base answers, node?_grown base more]
    cases base.node? id <;> simp
  refine ⟨?_, nodes, ?_, ?_⟩
  · intro id
    change ((grown engine other _ more).node? id).isSome = true ↔ _
    rw [nodes, Option.isSome_or, Bool.or_eq_true]
    rfl
  · rw [bothEdges, rightEdges, map_key_mergeEdges, map_key_mergeEdges, foldl_addNew, foldl_addNew]
    simp
  · intro edge member site
    rw [← siteOf_key_iff (wellFormed_grown leftWellFormed more).distinct member, bothEdges,
      rightEdges, siteOf_mergeEdges, siteOf_mergeEdges]
    simp [SiteOf]

/-- A level adds the answers for those of its ids that come first. -/
theorem AnswersBy.expandLevel
    (answers : AnswersBy holds engine direction answerOf) (graph : CallGraph)
    (expanded : List NodeId) (items : List Item) :
    Yields holds
      (· = ((levelAnswers engine answerOf expanded items).flatMap Answer.found,
        ⟨grown engine direction graph (levelAnswers engine answerOf expanded items),
          expandedAfter engine expanded (levelAnswers engine answerOf expanded items)⟩))
      (expandLevel engine direction ⟨graph, expanded⟩ items) := by
  induction items generalizing graph expanded with
  | nil => exact yields_pure rfl
  | cons item rest inductionHypothesis =>
      by_cases before : (engine.node item).id ∈ expanded
      · have first : Yields holds (· = ([], ⟨graph, expanded⟩))
            (expandItem engine direction ⟨graph, expanded⟩ item) := by
          rw [expandItem_of_mem engine direction before]
          exact yields_pure rfl
        apply first.bind
        rintro _ rfl
        apply (inductionHypothesis graph expanded).bind
        rintro _ rfl
        apply yields_pure
        rw [levelAnswers, if_pos before, List.nil_append]
      · have first : Yields holds
            (· = ((answerOf item).map Call.symbol,
              ⟨grown engine direction graph [⟨item, answerOf item⟩],
                (engine.node item).id :: expanded⟩))
            (expandItem engine direction ⟨graph, expanded⟩ item) := by
          rw [expandItem_of_not_mem engine direction before]
          apply (answers item).bind
          rintro _ rfl
          exact yields_pure rfl
        apply first.bind
        rintro _ rfl
        apply (inductionHypothesis _ _).bind
        rintro _ rfl
        apply yields_pure
        rw [levelAnswers, if_neg before]
        simp [expandedAfter, grown, Answer.found, Answer.id]

theorem AnswersBy.explore
    (answers : AnswersBy holds engine direction answerOf) (remaining level : Nat)
    (frontier : List Item) (graph : CallGraph) (expanded : List NodeId) :
    Yields holds
      (· = grown engine direction graph
        (searchAnswers engine answerOf remaining expanded frontier))
      (explore engine direction remaining level frontier ⟨graph, expanded⟩) := by
  induction remaining generalizing level frontier graph expanded with
  | zero => exact yields_pure rfl
  | succ remaining inductionHypothesis =>
      cases frontier with
      | nil =>
          rw [searchAnswers_nil]
          exact (yields_emit _).bind fun _ _ => yields_pure rfl
      | cons item rest =>
          apply (answers.expandLevel graph expanded (item :: rest)).bind
          rintro _ rfl
          apply (yields_emit _).bind
          intro _ _
          apply (inductionHypothesis _ _ _ _).imp
          rintro _ rfl
          rw [searchAnswers, grown_append]

/-- An exploration adds to any graph the answers of the search from its anchor. -/
theorem AnswersBy.exploreFrom
    (answers : AnswersBy holds engine direction answerOf) (depth : Nat) (anchor : Item)
    (graph : CallGraph) :
    Yields holds
      (· = grown engine direction graph (searchAnswers engine answerOf depth [] [anchor]))
      (exploreFrom engine direction depth anchor graph) :=
  answers.explore depth 0 [anchor] graph []

theorem yields_seed
    {document : Snapshot} {position : Position} {anchor : Item}
    (prepared : Yields holds (· = some anchor) (engine.prepare document position)) :
    Yields holds (· = (CallGraph.empty.addNode (engine.node anchor), anchor))
      (seed engine document position) := by
  apply prepared.bind
  rintro _ rfl
  exact yields_pure rfl

/-- Where there is no symbol, an operation fails before it draws anything. -/
theorem fails_seed_bind
    {α : Type} {document : Snapshot} {position : Position}
    (prepared : Yields holds (· = none) (engine.prepare document position))
    (next : CallGraph × Item → Operation σ α) {run : Run σ} (stateHolds : holds run.state) :
    ∃ after, (seed engine document position >>= next).perform run =
      (.error (.symbolNotFound document.uri.path position.line position.character), after) := by
  obtain ⟨_, after, performed, _, rfl⟩ := prepared run stateHolds
  refine ⟨after, perform_bind_of_error ?_⟩
  rw [seed, perform_bind_of_ok performed]
  rfl

/-- Let an engine answer by functions of the symbols, while its state has a property that its
queries keep. Where there is a symbol, the graph of its callers and callees, up to a depth, is the
union of the graph of its callers and the graph of its callees; where there is none, no graph is
built. -/
theorem callGraph_is_union_of_callers_and_callees
    {engine : Engine σ Item} {holds : σ → Prop} {incoming outgoing : Item → List (Call Item)}
    (incomingAnswers : AnswersBy holds engine .callers incoming)
    (outgoingAnswers : AnswersBy holds engine .callees outgoing)
    {document : Snapshot} {position : Position} {symbol? : Option Item}
    (prepared : Yields holds (· = symbol?) (engine.prepare document position)) (depth : Nat) :
    match symbol? with
    | some _ =>
        ∃ callers callees both,
          Yields holds (· = callers) (callersGraph engine document position depth) ∧
          Yields holds (· = callees) (calleesGraph engine document position depth) ∧
          Yields holds (· = both) (callGraph engine document position depth) ∧
          IsUnion callers callees both
    | none =>
        ∀ build ∈ [callersGraph engine document position depth,
            calleesGraph engine document position depth,
            callGraph engine document position depth],
          ∀ run, holds run.state → ∃ after, build.perform run =
            (.error (.symbolNotFound document.uri.path position.line position.character),
              after) := by
  cases symbol? with
  | none =>
      intro build isBuild run stateHolds
      simp only [List.mem_cons, List.not_mem_nil, or_false] at isBuild
      rcases isBuild with rfl | rfl | rfl
      · exact fails_seed_bind prepared _ stateHolds
      · exact fails_seed_bind prepared _ stateHolds
      · exact fails_seed_bind prepared _ stateHolds
  | some anchor =>
      have seeded := yields_seed prepared
      have anchorWellFormed := CallGraph.wellFormed_empty.addNode (engine.node anchor)
      refine ⟨_, _, _, ?_, ?_, ?_,
        isUnion_grown engine .callers .callees anchorWellFormed rfl
          (searchAnswers engine incoming depth [] [anchor])
          (searchAnswers engine outgoing depth [] [anchor])⟩
      · apply seeded.bind
        rintro _ rfl
        exact incomingAnswers.exploreFrom depth anchor _
      · apply seeded.bind
        rintro _ rfl
        exact outgoingAnswers.exploreFrom depth anchor _
      · apply seeded.bind
        rintro _ rfl
        apply (incomingAnswers.exploreFrom depth anchor _).bind
        rintro _ rfl
        exact outgoingAnswers.exploreFrom depth anchor _

/-- Calls on one line, to the symbols whose numbers a table lists for a symbol. -/
def callsOnLine (line : Nat) (table : List (List Nat)) (item : Fin 4) : List (Call (Fin 4)) :=
  let called := (List.finRange 4).filter fun other => other.val ∈ table.getD item.val []
  called.map fun other => ⟨other, [⟨⟨['f'], Eq.refl true⟩, .onLine line 0 1⟩]⟩

/-- The last two symbols share an id, but not their callers. -/
def rivalIncoming : Fin 4 → List (Call (Fin 4)) :=
  callsOnLine 1 [[2], [0, 3], [0, 2], [1]]

def rivalOutgoing : Fin 4 → List (Call (Fin 4)) :=
  callsOnLine 2 [[1, 2], [3], [0], [1]]

def rivalEngine : Engine Unit (Fin 4) :=
  { circleEngine with
    incomingCalls := fun item => pure (rivalIncoming item)
    outgoingCalls := fun item => pure (rivalOutgoing item) }

theorem rivals_callGraph_is_union :
    let document : Snapshot := ⟨⟨['f'], by decide⟩, [], 1, []⟩
    let always : Unit → Prop := fun _ => True
    let build := callGraph rivalEngine document ⟨0, 0⟩ 2
    (rivalEngine.node 2).id = (rivalEngine.node 3).id ∧ rivalIncoming 2 ≠ rivalIncoming 3 ∧
      AnswersBy always rivalEngine .callers rivalIncoming ∧
      AnswersBy always rivalEngine .callees rivalOutgoing ∧
      Yields always (· = some 0) (rivalEngine.prepare document ⟨0, 0⟩) ∧
      (build.perform (.start () true)).1.toOption.map (fun graph =>
        (graph.nodeCount, graph.edges.map fun edge => edge.sites.length)) =
          some (3, [2, 2, 1, 1, 1]) ∧
      ∃ callers callees both,
        Yields always (· = callers) (callersGraph rivalEngine document ⟨0, 0⟩ 2) ∧
        Yields always (· = callees) (calleesGraph rivalEngine document ⟨0, 0⟩ 2) ∧
        Yields always (· = both) build ∧ IsUnion callers callees both := by
  intro document always build
  have incomingAnswers : AnswersBy always rivalEngine .callers rivalIncoming :=
    fun _ => yields_pure rfl
  have outgoingAnswers : AnswersBy always rivalEngine .callees rivalOutgoing :=
    fun _ => yields_pure rfl
  have prepared : Yields always (· = some 0) (rivalEngine.prepare document ⟨0, 0⟩) :=
    yields_pure rfl
  exact ⟨rfl, by decide, incomingAnswers, outgoingAnswers, prepared, by decide +kernel,
    callGraph_is_union_of_callers_and_callees incomingAnswers outgoingAnswers prepared 2⟩

end Exploration

end CallHierarchy
