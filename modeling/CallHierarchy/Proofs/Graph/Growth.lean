import CallHierarchy.Proofs.Graph.Representation
import CallHierarchy.Proofs.Graph.Traced

/-!
How a graph grows while it is explored. What an exploration has done so far is a list of answered
queries: the expanded ids are those of the answered symbols, and the graph is the one it began
with, plus the symbols and the edges of all answers. A symbol, a level and a whole exploration only
put more answers at the end of the list.
-/

namespace CallHierarchy

namespace Exploration

open Operation

variable {σ Item : Type} {engine : Engine σ Item} {direction : Direction}

/-- A symbol with the calls that the engine gave for it. -/
structure Answer (Item : Type) where
  item : Item
  calls : List (Call Item)

namespace Answer

def id (engine : Engine σ Item) (answer : Answer Item) : NodeId :=
  (engine.node answer.item).id

def query (direction : Direction) (answer : Answer Item) : CallQuery Item :=
  ⟨direction, answer.item⟩

def found (answer : Answer Item) : List Item :=
  answer.calls.map Call.symbol

def edgeOf (engine : Engine σ Item) (direction : Direction) (answer : Answer Item)
    (call : Call Item) : CallEdge :=
  edge direction engine.source (answer.id engine) (engine.node call.symbol).id call.sites

def edges (engine : Engine σ Item) (direction : Direction) (answer : Answer Item) :
    List CallEdge :=
  answer.calls.map (answer.edgeOf engine direction)

def Given (engine : Engine σ Item) (direction : Direction) (answer : Answer Item) : Prop :=
  ∃ run after, (Exploration.calls engine direction answer.item).perform run =
    (.ok answer.calls, after)

end Answer

/-- Progress that consists of the answers to some queries, on top of a graph. -/
structure Explored (engine : Engine σ Item) (direction : Direction) (base : CallGraph)
    (answers : List (Answer Item)) (progress : Progress) : Prop where
  wellFormed : progress.graph.WellFormed
  nodes : ∀ id, progress.graph.containsNode id = true ↔
    base.containsNode id = true ∨ ∃ item ∈ answers.flatMap Answer.found, (engine.node item).id = id
  origin : ∀ id node, progress.graph.node? id = some node →
    base.node? id = some node ∨ ∃ item ∈ answers.flatMap Answer.found, engine.node item = node
  kept : ∀ id node, base.node? id = some node → progress.graph.node? id = some node
  edges : progress.graph.edges =
    mergeEdges base.edges (answers.flatMap (Answer.edges engine direction))
  expanded : progress.expanded = (answers.map (Answer.id engine)).reverse
  distinct : progress.expanded.Nodup

theorem explored_nil
    {base : CallGraph} (wellFormed : base.WellFormed) :
    Explored engine direction base [] ⟨base, []⟩ where
  wellFormed := wellFormed
  nodes := by simp
  origin _ _ := Or.inl
  kept _ _ found := found
  edges := rfl
  expanded := rfl
  distinct := List.nodup_nil

theorem mem_map_query
    {answers : List (Answer Item)} {query : CallQuery Item} :
    query ∈ answers.map (Answer.query direction) ↔
      query.direction = direction ∧ query.item ∈ answers.map Answer.item := by
  constructor
  · intro member
    obtain ⟨answer, answerMember, rfl⟩ := List.mem_map.1 member
    exact ⟨rfl, List.mem_map_of_mem answerMember⟩
  · rintro ⟨rfl, member⟩
    obtain ⟨answer, answerMember, itemEq⟩ := List.mem_map.1 member
    refine List.mem_map.2 ⟨answer, answerMember, ?_⟩
    rw [Answer.query, itemEq]

theorem Explored.nodup_map_id
    {base : CallGraph} {answers : List (Answer Item)} {progress : Progress}
    (explored : Explored engine direction base answers progress) :
    (answers.map (Answer.id engine)).Nodup := by
  have distinct := explored.distinct
  rwa [explored.expanded, List.nodup_reverse] at distinct

theorem Explored.nodup_map_query
    {base : CallGraph} {answers : List (Answer Item)} {progress : Progress}
    (explored : Explored engine direction base answers progress) :
    (answers.map (Answer.query direction)).Nodup := by
  apply List.Nodup.of_map fun query => (engine.node query.item).id
  rw [List.map_map]
  exact explored.nodup_map_id

theorem Explored.mem_expanded
    {base : CallGraph} {answers : List (Answer Item)} {progress : Progress}
    (explored : Explored engine direction base answers progress) {id : NodeId} :
    id ∈ progress.expanded ↔ id ∈ answers.map (Answer.id engine) := by
  rw [explored.expanded, List.mem_reverse]

theorem wellFormed_addCall
    {graph : CallGraph} (wellFormed : graph.WellFormed) (expanded : NodeId) (call : Call Item) :
    (addCall engine direction expanded graph call).WellFormed := by
  rw [addCall]
  by_cases present : graph.containsNode (engine.node call.symbol).id = true
  · rw [if_pos present]
    exact wellFormed.addEdge _
  · rw [if_neg present]
    exact (wellFormed.addNode _).addEdge _

theorem containsNode_addCall
    {graph : CallGraph} {expanded id : NodeId} {call : Call Item} :
    (addCall engine direction expanded graph call).containsNode id = true ↔
      graph.containsNode id = true ∨ (engine.node call.symbol).id = id := by
  rw [addCall, CallGraph.containsNode_addEdge]
  by_cases present : graph.containsNode (engine.node call.symbol).id = true
  · rw [if_pos present]
    constructor
    · exact Or.inl
    · rintro (member | rfl)
      · exact member
      · exact present
  · rw [if_neg present, CallGraph.containsNode_addNode, or_comm, @eq_comm NodeId id]

theorem node?_addCall
    {graph : CallGraph} {expanded id : NodeId} {call : Call Item} {node : CallNode}
    (found : (addCall engine direction expanded graph call).node? id = some node) :
    graph.node? id = some node ∨ engine.node call.symbol = node := by
  rw [addCall, CallGraph.node?_addEdge] at found
  by_cases present : graph.containsNode (engine.node call.symbol).id = true
  · rw [if_pos present] at found
    exact Or.inl found
  · rw [if_neg present, CallGraph.node?_addNode] at found
    by_cases isCalled : id = (engine.node call.symbol).id
    · rw [if_pos isCalled] at found
      exact Or.inr (Option.some.inj found)
    · rw [if_neg isCalled] at found
      exact Or.inl found

/-- A node comes only where there was none. -/
theorem node?_addCall_of_some
    {graph : CallGraph} {expanded id : NodeId} {call : Call Item} {node : CallNode}
    (found : graph.node? id = some node) :
    (addCall engine direction expanded graph call).node? id = some node := by
  rw [addCall, CallGraph.node?_addEdge]
  by_cases present : graph.containsNode (engine.node call.symbol).id = true
  · rw [if_pos present]
    exact found
  · have otherId : id ≠ (engine.node call.symbol).id := by
      intro isCalled
      rw [← isCalled, CallGraph.containsNode_iff] at present
      exact present ⟨node, found⟩
    rw [if_neg present, CallGraph.node?_addNode, if_neg otherId]
    exact found

theorem node?_foldl_addCall_of_some
    {graph : CallGraph} {expanded id : NodeId} {node : CallNode}
    (found : graph.node? id = some node) (calls : List (Call Item)) :
    (calls.foldl (addCall engine direction expanded) graph).node? id = some node := by
  induction calls generalizing graph with
  | nil => exact found
  | cons call rest inductionHypothesis => exact inductionHypothesis (node?_addCall_of_some found)

/-- Drawing a call merges its edge into those that are there. -/
theorem edges_addCall
    {graph : CallGraph} (wellFormed : graph.WellFormed) (expanded : NodeId) (call : Call Item) :
    (addCall engine direction expanded graph call).edges =
      mergeEdge (edge direction engine.source expanded (engine.node call.symbol).id call.sites)
        graph.edges := by
  rw [addCall]
  by_cases present : graph.containsNode (engine.node call.symbol).id = true
  · rw [if_pos present]
    exact wellFormed.edges_addEdge _
  · rw [if_neg present]
    exact (wellFormed.addNode _).edges_addEdge _

theorem foldl_addCall
    (engine : Engine σ Item) (direction : Direction)
    {graph : CallGraph} (wellFormed : graph.WellFormed) (expanded : NodeId)
    (calls : List (Call Item)) :
    (calls.foldl (addCall engine direction expanded) graph).WellFormed ∧
      (∀ id, (calls.foldl (addCall engine direction expanded) graph).containsNode id = true ↔
        graph.containsNode id = true ∨ ∃ item ∈ calls.map Call.symbol, (engine.node item).id = id) ∧
      (∀ id node,
        (calls.foldl (addCall engine direction expanded) graph).node? id = some node →
          graph.node? id = some node ∨ ∃ item ∈ calls.map Call.symbol, engine.node item = node) ∧
      (calls.foldl (addCall engine direction expanded) graph).edges =
        mergeEdges graph.edges (calls.map fun call =>
          edge direction engine.source expanded (engine.node call.symbol).id call.sites) := by
  induction calls generalizing graph with
  | nil => exact ⟨wellFormed, by simp, fun _ _ => Or.inl, rfl⟩
  | cons call rest inductionHypothesis =>
      obtain ⟨restWellFormed, restNodes, restOrigin, restEdges⟩ :=
        inductionHypothesis (wellFormed_addCall wellFormed expanded call)
      refine ⟨restWellFormed, ?_, ?_, ?_⟩
      · intro id
        rw [List.foldl_cons, restNodes, containsNode_addCall, or_assoc]
        simp
      · intro id node found
        rcases restOrigin id node found with before | ⟨item, member, isNode⟩
        · exact (node?_addCall before).imp_right fun isNode =>
            ⟨call.symbol, List.mem_cons_self, isNode⟩
        · exact Or.inr ⟨item, List.mem_cons_of_mem _ member, isNode⟩
      · rw [List.foldl_cons, restEdges, edges_addCall wellFormed]
        rfl

/-- An answer for a new id is put on record, and its calls are drawn. -/
theorem Explored.answer
    {base : CallGraph} {answers : List (Answer Item)} {progress : Progress}
    (explored : Explored engine direction base answers progress) (answer : Answer Item)
    (fresh : answer.id engine ∉ progress.expanded) :
    Explored engine direction base (answers ++ [answer])
      ⟨answer.calls.foldl (addCall engine direction (answer.id engine)) progress.graph,
        answer.id engine :: progress.expanded⟩ := by
  obtain ⟨wellFormed, nodes, origin, edges⟩ :=
    foldl_addCall engine direction explored.wellFormed (answer.id engine) answer.calls
  refine ⟨wellFormed, ?_, ?_, ?_, ?_, ?_, List.nodup_cons.2 ⟨fresh, explored.distinct⟩⟩
  · intro id
    rw [nodes, explored.nodes, or_assoc]
    simp [Answer.found, or_and_right, exists_or]
  · intro id node found
    rw [List.flatMap_append, List.flatMap_singleton]
    rcases origin id node found with before | ⟨item, member, isNode⟩
    · exact (explored.origin id node before).imp_right fun ⟨item, member, isNode⟩ =>
        ⟨item, List.mem_append_left _ member, isNode⟩
    · exact Or.inr ⟨item, List.mem_append_right _ member, isNode⟩
  · intro id node found
    exact node?_foldl_addCall_of_some (explored.kept id node found) answer.calls
  · rw [edges, explored.edges, List.flatMap_append, mergeEdges_append, List.flatMap_singleton]
    rfl
  · simp [explored.expanded]

/-! ## Levels -/

/-- The symbols of a list were expanded, after some answers: those with a new id gave more answers,
and what was found is what these found. -/
structure Walked (engine : Engine σ Item) (direction : Direction) (base : CallGraph)
    (answers : List (Answer Item)) (items : List Item) (more : List (Answer Item))
    (found : List Item) (next : Progress) : Prop where
  explored : Explored engine direction base (answers ++ more) next
  asked : ∀ answer ∈ more, answer.item ∈ items
  given : ∀ answer ∈ more, answer.Given engine direction
  found : found = more.flatMap Answer.found
  expanded : ∀ id, id ∈ next.expanded ↔
    id ∈ answers.map (Answer.id engine) ∨ ∃ item ∈ items, (engine.node item).id = id

theorem Explored.walked_nil
    {base : CallGraph} {answers : List (Answer Item)} {progress : Progress}
    (explored : Explored engine direction base answers progress) :
    Walked engine direction base answers [] [] [] progress where
  explored := by rwa [List.append_nil]
  asked := by simp
  given := by simp
  found := rfl
  expanded id := by simp [explored.mem_expanded]

theorem Walked.append
    {base : CallGraph} {answers more later : List (Answer Item)}
    {items rest found laterFound : List Item} {next final : Progress}
    (first : Walked engine direction base answers items more found next)
    (second : Walked engine direction base (answers ++ more) rest later laterFound final) :
    Walked engine direction base answers (items ++ rest) (more ++ later) (found ++ laterFound)
      final where
  explored := by
    rw [← List.append_assoc]
    exact second.explored
  asked answer member := (List.mem_append.1 member).elim
    (fun before => List.mem_append_left rest (first.asked answer before))
    (fun later => List.mem_append_right items (second.asked answer later))
  given answer member := (List.mem_append.1 member).elim (first.given answer) (second.given answer)
  found := by rw [first.found, second.found, List.flatMap_append]
  expanded id := by
    rw [second.expanded, ← first.explored.mem_expanded, first.expanded, or_assoc]
    simp [or_and_right, exists_or]

/-- A property that answers pass on to what they found is one of all symbols. -/
theorem Walked.forall_items
    {base : CallGraph} {answers more : List (Answer Item)} {items found : List Item}
    {next : Progress} (walked : Walked engine direction base answers items more found next)
    {property : Item → Prop} (holds : ∀ item ∈ answers.map Answer.item ++ items, property item)
    (passedOn : ∀ answer ∈ more, property answer.item →
      ∀ call ∈ answer.calls, property call.symbol) :
    ∀ item ∈ (answers ++ more).map Answer.item ++ found, property item := by
  have asked : ∀ answer ∈ more, property answer.item := by
    intro answer member
    exact holds answer.item (List.mem_append_right _ (walked.asked answer member))
  intro item member
  rw [List.map_append, List.append_assoc, List.mem_append, List.mem_append, walked.found] at member
  rcases member with before | answered | isFound
  · exact holds item (List.mem_append_left _ before)
  · obtain ⟨answer, answerMember, rfl⟩ := List.mem_map.1 answered
    exact asked answer answerMember
  · obtain ⟨answer, answerMember, foundHere⟩ := List.mem_flatMap.1 isFound
    obtain ⟨call, callMember, rfl⟩ := List.mem_map.1 foundHere
    exact passedOn answer answerMember (asked answer answerMember) call callMember

/-- What an operation of the traced engine has done when it went well on the symbols of a list. -/
def Reports (engine : Engine σ Item) (direction : Direction) (base : CallGraph)
    (answers : List (Answer Item)) (items : List Item)
    (operation : Operation (σ × List (CallQuery Item)) (List Item × Progress)) : Prop :=
  ∀ (run : Run σ) log found next after,
    operation.perform (run.withLog log) = (.ok (found, next), after) →
      ∃ more, ∃ later : Run σ,
        after = later.withLog (log ++ more.map (Answer.query direction)) ∧
        Walked engine direction base answers items more found next

/-- One query is made for a symbol whose id is new, and none for another one. -/
theorem Explored.expandItem
    {base : CallGraph} {answers : List (Answer Item)} {progress : Progress}
    (explored : Explored engine direction base answers progress) (item : Item) :
    Reports engine direction base answers [item]
      (expandItem engine.traced direction progress item) := by
  intro run log found next after performed
  by_cases before : (engine.node item).id ∈ progress.expanded
  · rw [expandItem_of_mem engine.traced direction before] at performed
    cases performed
    refine ⟨[], run, by simp, ⟨explored.walked_nil.explored, by simp, by simp, rfl, ?_⟩⟩
    intro id
    rw [← explored.mem_expanded]
    constructor
    · exact Or.inl
    · rintro (member | ⟨_, isItem, rfl⟩)
      · exact member
      · rw [List.mem_singleton] at isItem
        rwa [isItem]
  · rw [expandItem_of_not_mem engine.traced direction before] at performed
    obtain ⟨calls, middle, answered, rest⟩ := perform_bind_ok performed
    cases rest
    rw [perform_calls_traced, Prod.mk.injEq] at answered
    obtain ⟨given, middleEq⟩ := answered
    refine ⟨[⟨item, calls⟩], _, middleEq.symm,
      ⟨explored.answer ⟨item, calls⟩ before, by simp, ?_, ?_, ?_⟩⟩
    · intro answer isAnswer
      rw [List.mem_singleton.1 isAnswer]
      exact ⟨run, _, Prod.ext given rfl⟩
    · simp [Answer.found]
    · intro id
      rw [List.mem_cons, explored.mem_expanded, or_comm]
      simp [eq_comm]

/-- The symbols of a level are expanded in turn, each after the answers that came before it. -/
theorem Explored.expandLevel
    {base : CallGraph} {answers : List (Answer Item)} {progress : Progress}
    (explored : Explored engine direction base answers progress) (items : List Item) :
    Reports engine direction base answers items
      (expandLevel engine.traced direction progress items) := by
  induction items generalizing answers progress with
  | nil =>
      intro run log found next after performed
      cases performed
      exact ⟨[], run, by simp, explored.walked_nil⟩
  | cons item rest inductionHypothesis =>
      intro run log found next after performed
      obtain ⟨⟨firstFound, firstNext⟩, _, firstPerformed, others⟩ := perform_bind_ok performed
      obtain ⟨more, middle, rfl, first⟩ :=
        explored.expandItem item run log firstFound firstNext _ firstPerformed
      obtain ⟨⟨laterFound, final⟩, _, laterPerformed, last⟩ := perform_bind_ok others
      obtain ⟨later, finish, rfl, second⟩ :=
        inductionHypothesis first.explored middle _ laterFound final _ laterPerformed
      cases last
      refine ⟨more ++ later, finish, ?_, first.append second⟩
      rw [List.map_append, List.append_assoc]

theorem perform_explore_nil
    (engine : Engine σ Item) (direction : Direction) (remaining level : Nat) (progress : Progress)
    (run : Run σ) :
    ∃ events, (explore engine direction (remaining + 1) level [] progress).perform run =
      (.ok progress.graph, run.report events) :=
  ⟨_, rfl⟩

/-- What holds at the start of an exploration and is kept by every level holds after all levels. -/
theorem Explored.explore
    {base : CallGraph} {answers : List (Answer Item)} {progress : Progress}
    (explored : Explored engine direction base answers progress)
    {motive : Nat → List Item → List (Answer Item) → Prop}
    (kept : ∀ count frontier answers more found next, motive count frontier answers →
      Walked engine direction base answers frontier more found next →
      motive (count + 1) found (answers ++ more))
    {count remaining level : Nat} {frontier : List Item} (holds : motive count frontier answers)
    {run : Run σ} {log : List (CallQuery Item)} {graph : CallGraph}
    {after : Run (σ × List (CallQuery Item))}
    (performed : (explore engine.traced direction remaining level frontier progress).perform
      (run.withLog log) = (.ok graph, after)) :
    ∃ more last expanded, ∃ later : Run σ,
      after = later.withLog (log ++ more.map (Answer.query direction)) ∧
      Explored engine direction base (answers ++ more) ⟨graph, expanded⟩ ∧
      (∀ answer ∈ more, answer.Given engine direction) ∧
      motive (count + remaining) last (answers ++ more) := by
  induction remaining generalizing count level frontier answers progress run log with
  | zero =>
      cases performed
      refine ⟨[], frontier, progress.expanded, run, by simp, ?_, by simp, ?_⟩
      · rwa [List.append_nil]
      · rwa [List.append_nil]
  | succ remaining inductionHypothesis =>
      cases frontier with
      | nil =>
          -- The levels that are only reported would change nothing.
          have stays : ∀ levels, motive (count + levels) [] answers := by
            intro levels
            induction levels with
            | zero => exact holds
            | succ levels stillHolds =>
                have nextHolds := kept (count + levels) [] answers [] [] progress stillHolds
                  explored.walked_nil
                rwa [List.append_nil] at nextHolds
          obtain ⟨events, reported⟩ := perform_explore_nil engine.traced direction remaining level
            progress (run.withLog log)
          rw [reported, Run.report_withLog] at performed
          cases performed
          refine ⟨[], [], progress.expanded, run.report events, by simp, ?_, by simp, ?_⟩
          · rwa [List.append_nil]
          · rw [List.append_nil]
            exact stays (remaining + 1)
      | cons item rest =>
          obtain ⟨⟨found, next⟩, _, levelPerformed, others⟩ := perform_bind_ok performed
          obtain ⟨more, middle, rfl, walked⟩ :=
            explored.expandLevel (item :: rest) run log found next _ levelPerformed
          obtain ⟨_, reported, emitted, others⟩ := perform_bind_ok others
          rw [perform_emit, Run.report_withLog] at emitted
          obtain rfl := congrArg Prod.snd emitted
          obtain ⟨later, last, expanded, finish, rfl, laterExplored, given, lastHolds⟩ :=
            inductionHypothesis walked.explored
              (kept count (item :: rest) answers more found next holds walked) others
          refine ⟨more ++ later, last, expanded, finish, ?_, ?_, ?_, ?_⟩
          · rw [List.map_append, List.append_assoc]
          · rwa [← List.append_assoc]
          · intro answer member
            exact (List.mem_append.1 member).elim (walked.given answer) (given answer)
          · rwa [← List.append_assoc, Nat.add_comm remaining 1, ← Nat.add_assoc]

section Compositional

variable {property : {α : Type} → Operation σ α → Prop}
  (compositional : Compositional property)
  (answered : ∀ item, property (calls engine direction item))
include compositional answered

theorem compositional_expandLevel
    (progress : Progress) (items : List Item) :
    property (expandLevel engine direction progress items) := by
  induction items generalizing progress with
  | nil => exact compositional.pure _
  | cons item rest inductionHypothesis =>
      have itemHas : property (expandItem engine direction progress item) := by
        by_cases before : (engine.node item).id ∈ progress.expanded
        · rw [expandItem_of_mem engine direction before]
          exact compositional.pure _
        · rw [expandItem_of_not_mem engine direction before]
          exact compositional.bind (answered item) fun _ => compositional.pure _
      apply compositional.bind itemHas
      intro expanded
      exact compositional.bind (inductionHypothesis expanded.2) fun _ => compositional.pure _

/-- A property that every query of an engine has, and sequences inherit, is one of explorations. -/
theorem compositional_explore
    (remaining level : Nat) (frontier : List Item) (progress : Progress) :
    property (explore engine direction remaining level frontier progress) := by
  induction remaining generalizing level frontier progress with
  | zero => exact compositional.pure _
  | succ remaining inductionHypothesis =>
      cases frontier with
      | nil => exact compositional.bind (compositional.emit _) fun _ => compositional.pure _
      | cons item rest =>
          apply compositional.bind
            (compositional_expandLevel compositional answered progress (item :: rest))
          intro expanded
          exact compositional.bind (compositional.emit _) fun _ =>
            inductionHypothesis (level + 1) expanded.1 expanded.2

end Compositional

end Exploration

end CallHierarchy
