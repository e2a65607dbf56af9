import CallHierarchy.Proofs.Graph.BoundedReachability
import CallHierarchy.Proofs.Graph.NodeIds

/-!
Graphs of declarations. A search of bodies answers from the workspace as it is, and no exploration
changes the workspace; so while documents have different paths, ids stand for declarations, and the
graph around a declaration is what the calls between declarations reach.
-/

namespace CallHierarchy

namespace Exploration

open Operation

variable {σ Item : Type} {direction : Direction}

section Agreeing

variable {left right : Engine σ Item} {holds : σ → Prop} {known : Item → Prop}
  (sameSource : left.source = right.source) (sameNode : left.node = right.node)
  (agree : ∀ item, known item →
    Agree holds (fun found => ∀ call ∈ found, known call.symbol)
      (calls left direction item) (calls right direction item))
include sameSource sameNode agree

theorem agree_expandItem
    (progress : Progress) {item : Item} (isKnown : known item) :
    Agree holds (fun expanded => ∀ found ∈ expanded.1, known found)
      (expandItem left direction progress item) (expandItem right direction progress item) := by
  have sameAddCall : addCall left direction = addCall right direction := by
    funext expanded graph call
    rw [addCall, addCall, sameSource, sameNode]
  by_cases before : (left.node item).id ∈ progress.expanded
  · have rightBefore : (right.node item).id ∈ progress.expanded := sameNode ▸ before
    rw [expandItem_of_mem left direction before, expandItem_of_mem right direction rightBefore]
    exact agree_pure (by simp)
  · have rightBefore : (right.node item).id ∉ progress.expanded := sameNode ▸ before
    rw [expandItem_of_not_mem left direction before,
      expandItem_of_not_mem right direction rightBefore, sameAddCall, sameNode]
    refine (agree item isKnown).bind ?_
    intro found foundKnown
    apply agree_pure
    intro symbol member
    obtain ⟨call, callMember, rfl⟩ := List.mem_map.1 member
    exact foundKnown call callMember

theorem agree_expandLevel
    (progress : Progress) {items : List Item} (allKnown : ∀ item ∈ items, known item) :
    Agree holds (fun expanded => ∀ found ∈ expanded.1, known found)
      (expandLevel left direction progress items) (expandLevel right direction progress items) := by
  induction items generalizing progress with
  | nil => exact agree_pure (by simp)
  | cons item rest inductionHypothesis =>
      obtain ⟨itemKnown, restKnown⟩ := List.forall_mem_cons.1 allKnown
      refine (agree_expandItem sameSource sameNode agree progress itemKnown).bind ?_
      intro expanded foundKnown
      refine (inductionHypothesis expanded.2 restKnown).bind ?_
      intro later laterKnown
      apply agree_pure
      intro symbol member
      exact (List.mem_append.1 member).elim (foundKnown symbol) (laterKnown symbol)

/-- Engines that give the same answers for known symbols, and only lead to known symbols, explore
in the same way. -/
theorem agree_explore
    (remaining level : Nat) {frontier : List Item} (allKnown : ∀ item ∈ frontier, known item)
    (progress : Progress) :
    Agree holds (fun _ => True)
      (explore left direction remaining level frontier progress)
      (explore right direction remaining level frontier progress) := by
  induction remaining generalizing level frontier progress with
  | zero => exact agree_pure trivial
  | succ remaining inductionHypothesis =>
      cases frontier with
      | nil => exact (agree_emit _).bind fun _ _ => agree_pure trivial
      | cons item rest =>
          refine (agree_expandLevel sameSource sameNode agree progress allKnown).bind ?_
          intro expanded foundKnown
          exact (agree_emit _).bind fun _ _ =>
            inductionHypothesis (level + 1) foundKnown expanded.2

end Agreeing

section Apart

variable {engine : Engine σ Item} {answerOf : Item → List (Call Item)} {start : Item}
  (answers : Answers engine direction answerOf)
  (apart : ∀ left right leftSteps rightSteps, Leads answerOf start leftSteps left →
    Leads answerOf start rightSteps right →
    (engine.node left).id = (engine.node right).id → left = right)
  {depth : Nat} {last : List Item} {given : List (Answer Item)}
  (level : AtLevel engine answerOf start depth last given)
include answers apart level

/-- The symbols that were asked about are those that fewer calls than the depth lead to. -/
theorem AtLevel.mem_items_iff
    {item : Item} :
    item ∈ given.map Answer.item ↔ ∃ steps, steps < depth ∧ Leads answerOf start steps item := by
  constructor
  · intro member
    obtain ⟨_, leads⟩ := level.led item (List.mem_append_left last member)
    obtain ⟨answer, answerMember, rfl⟩ := List.mem_map.1 member
    obtain ⟨steps, less, reached⟩ := (level.expanded _).1 (List.mem_map_of_mem answerMember)
    obtain ⟨other, otherLeads, sameId⟩ := answers.reachedIn_iff.1 reached
    rw [apart _ _ _ _ leads otherLeads sameId.symm]
    exact ⟨steps, less, otherLeads⟩
  · rintro ⟨steps, less, leads⟩
    have reached := answers.reachedIn_iff.2 ⟨item, leads, rfl⟩
    obtain ⟨answer, member, sameId⟩ :=
      List.mem_map.1 ((level.expanded (engine.node item).id).2 ⟨steps, less, reached⟩)
    have answered : answer.item ∈ given.map Answer.item := List.mem_map_of_mem member
    obtain ⟨_, answerLeads⟩ := level.led answer.item (List.mem_append_left last answered)
    rwa [apart _ _ _ _ leads answerLeads sameId.symm]

theorem AtLevel.mem_found_iff
    {item : Item} :
    item = start ∨ item ∈ given.flatMap Answer.found ↔
      ∃ steps, steps ≤ depth ∧ Leads answerOf start steps item := by
  constructor
  · rintro (rfl | member)
    · exact ⟨0, Nat.zero_le depth, Leads.start⟩
    · obtain ⟨answer, answerMember, foundHere⟩ := List.mem_flatMap.1 member
      obtain ⟨call, callMember, rfl⟩ := List.mem_map.1 foundHere
      rw [level.calls answer answerMember] at callMember
      obtain ⟨steps, less, leads⟩ :=
        (level.mem_items_iff answers apart).1 (List.mem_map_of_mem answerMember)
      exact ⟨steps + 1, less, leads.call callMember⟩
  · rintro ⟨steps, within, leads⟩
    cases leads with
    | start => exact Or.inl rfl
    | @call steps source call leads callMember =>
        have asked := (level.mem_items_iff answers apart).2 ⟨steps, within, leads⟩
        obtain ⟨answer, answerMember, rfl⟩ := List.mem_map.1 asked
        rw [← level.calls answer answerMember] at callMember
        exact Or.inr
          (List.mem_flatMap.2 ⟨answer, answerMember, List.mem_map_of_mem callMember⟩)

end Apart

end Exploration

/-! ## Answers from a workspace -/

/-- The engine that asks as before, but gives answers of its own. -/
def Engine.answering {σ Item : Type} (engine : Engine σ Item)
    (answerOf : Direction → Item → List (Call Item)) : Engine σ Item :=
  { engine with
    incomingCalls := fun item => do
      let _ ← engine.incomingCalls item
      return answerOf .callers item
    outgoingCalls := fun item => do
      let _ ← engine.outgoingCalls item
      return answerOf .callees item }

namespace Workspace

def callsIn (workspace : Workspace) : Direction → Declaration → List (Call Declaration)
  | .callers => workspace.incomingCalls
  | .callees => workspace.outgoingCalls

/-- The calls of the first declaration with the same id. -/
def callsById (workspace : Workspace) (direction : Direction) (declaration : Declaration) :
    List (Call Declaration) :=
  match workspace.index.allFunctions.find? fun other => other.node.id = declaration.node.id with
  | some first => workspace.callsIn direction first
  | none => []

variable {workspace : Workspace} {direction : Direction}

theorem mem_of_mem_callsIn
    {declaration : Declaration} {call : Call Declaration}
    (member : call ∈ workspace.callsIn direction declaration) :
    call.symbol ∈ workspace.index.allFunctions := by
  cases direction with
  | callers => exact (mem_incomingCalls.1 member).1
  | callees => exact mem_of_findByName? (mem_outgoingCalls.1 member).1

/-- While documents have different paths, calls by id are the calls of the declaration. -/
theorem WellFormed.callsById_eq
    (wellFormed : workspace.WellFormed) (distinctPaths : workspace.DistinctPaths)
    {declaration : Declaration} (member : declaration ∈ workspace.index.allFunctions) :
    workspace.callsById direction declaration = workspace.callsIn direction declaration := by
  rw [callsById]
  cases found : workspace.index.allFunctions.find? fun other =>
      other.node.id = declaration.node.id with
  | none =>
      have absent := List.find?_eq_none.1 found declaration member
      simp at absent
  | some first =>
      have sameId : first.node.id = declaration.node.id := by simpa using List.find?_some found
      rw [wellFormed.eq_of_id_eq distinctPaths (List.mem_of_find?_eq_some found) member sameId]

end Workspace

namespace DirectSearch

open Operation Exploration

variable {workspace : Workspace} {direction : Direction}

/-- A search answers from the workspace, and reports. -/
theorem perform_calls
    (direction : Direction) (declaration : Declaration) (run : Run Workspace) :
    ∃ events, (calls engine direction declaration).perform run =
      (.ok (run.state.callsIn direction declaration), run.report events) := by
  cases direction with
  | callers => exact ⟨_, rfl⟩
  | callees => exact ⟨_, rfl⟩

theorem calls_answering
    (answerOf : Direction → Declaration → List (Call Declaration)) (direction : Direction)
    (declaration : Declaration) :
    calls (engine.answering answerOf) direction declaration =
      calls engine direction declaration >>= fun _ => pure (answerOf direction declaration) := by
  cases direction <;> rfl

theorem perform_calls_answering
    (answerOf : Direction → Declaration → List (Call Declaration)) (direction : Direction)
    (declaration : Declaration) (run : Run Workspace) :
    (calls (engine.answering answerOf) direction declaration).perform run =
      (.ok (answerOf direction declaration),
        ((calls engine direction declaration).perform run).2) := by
  obtain ⟨events, performed⟩ := perform_calls direction declaration run
  rw [calls_answering, perform_bind_of_ok performed, performed]
  rfl

/-- With answers by id, symbols with the same id have the same calls. -/
theorem answers_callsById
    (workspace : Workspace) (direction : Direction) :
    Answers (engine.answering workspace.callsById) direction (workspace.callsById direction) where
  performed declaration run :=
    ⟨_, perform_calls_answering workspace.callsById direction declaration run⟩
  congruent left right sameId := by
    have sameId : left.node.id = right.node.id := sameId
    rw [Workspace.callsById, Workspace.callsById, sameId]

theorem mem_of_leads
    {anchor declaration : Declaration} (indexed : anchor ∈ workspace.index.allFunctions)
    {steps : Nat} (leads : Leads (workspace.callsIn direction) anchor steps declaration) :
    declaration ∈ workspace.index.allFunctions := by
  cases leads with
  | start => exact indexed
  | call _ member => exact Workspace.mem_of_mem_callsIn member

section DistinctPaths

variable (wellFormed : workspace.WellFormed) (distinctPaths : workspace.DistinctPaths)
include wellFormed distinctPaths

/-- While the workspace is as it is, answers by id are the answers of the search. -/
theorem agree_calls
    {declaration : Declaration} (member : declaration ∈ workspace.index.allFunctions) :
    Agree (fun state => state.1 = workspace)
      (fun found => ∀ call ∈ found, call.symbol ∈ workspace.index.allFunctions)
      (calls engine.traced direction declaration)
      (calls (engine.answering workspace.callsById).traced direction declaration) := by
  intro run settled
  obtain ⟨plain, log, rfl⟩ := run.exists_withLog
  have settled : plain.state = workspace := settled
  obtain ⟨events, performed⟩ := perform_calls direction declaration plain
  rw [perform_calls_traced, perform_calls_traced, perform_calls_answering, performed, settled,
    wellFormed.callsById_eq distinctPaths member]
  refine ⟨rfl, ?_, ?_⟩
  · have kept := keepsState_emit events plain
    exact kept.trans settled
  · rintro _ ⟨⟩ call callMember
    exact Workspace.mem_of_mem_callsIn callMember

theorem leads_callsById_iff
    {anchor declaration : Declaration} (indexed : anchor ∈ workspace.index.allFunctions)
    {steps : Nat} :
    Leads (workspace.callsById direction) anchor steps declaration ↔
      Leads (workspace.callsIn direction) anchor steps declaration := by
  constructor
  · intro leads
    induction leads with
    | start => exact Leads.start
    | call _ member inductionHypothesis =>
        rw [wellFormed.callsById_eq distinctPaths (mem_of_leads indexed inductionHypothesis)]
          at member
        exact inductionHypothesis.call member
  · intro leads
    induction leads with
    | start => exact Leads.start
    | call sourceLeads member inductionHypothesis =>
        rw [← wellFormed.callsById_eq distinctPaths (mem_of_leads indexed sourceLeads)] at member
        exact inductionHypothesis.call member

/-- An exploration from a declaration of the index asks for the declarations that are not at the
bound, and finds those that are within it. -/
theorem exists_explored
    (direction : Direction) {anchor : Declaration}
    (indexed : anchor ∈ workspace.index.allFunctions) (depth : Nat)
    {base : CallGraph} (baseWellFormed : base.WellFormed)
    {run : Run Workspace} (settled : run.state = workspace) (log : List (CallQuery Declaration)) :
    ∃ graph expanded given, ∃ after : Run Workspace,
      (exploreFrom engine.traced direction depth anchor base).perform (run.withLog log) =
        (.ok graph, after.withLog (log ++ given.map (Answer.query direction))) ∧
      after.state = workspace ∧
      Explored (engine.answering workspace.callsById) direction base given ⟨graph, expanded⟩ ∧
      (∀ declaration, declaration ∈ given.map Answer.item ↔
        ∃ steps, steps < depth ∧ Leads (workspace.callsIn direction) anchor steps declaration) ∧
      (∀ declaration, declaration = anchor ∨ declaration ∈ given.flatMap Answer.found ↔
        ∃ steps, steps ≤ depth ∧ Leads (workspace.callsIn direction) anchor steps declaration) := by
  have answers := answers_callsById workspace direction
  have apart : ∀ left right leftSteps rightSteps,
      Leads (workspace.callsById direction) anchor leftSteps left →
      Leads (workspace.callsById direction) anchor rightSteps right →
      left.node.id = right.node.id → left = right := by
    intro left right leftSteps rightSteps leftLeads rightLeads
    rw [leads_callsById_iff wellFormed distinctPaths indexed] at leftLeads rightLeads
    exact wellFormed.eq_of_id_eq distinctPaths (mem_of_leads indexed leftLeads)
      (mem_of_leads indexed rightLeads)
  have agree : Agree (fun state => state.1 = workspace) (fun _ => True)
      (exploreFrom engine.traced direction depth anchor base)
      (exploreFrom (engine.answering workspace.callsById).traced direction depth anchor base) := by
    rw [exploreFrom, exploreFrom]
    refine agree_explore ?_ ?_ (fun _ => agree_calls wellFormed distinctPaths) depth 0
      (List.forall_mem_singleton.2 indexed) ⟨base, []⟩
    · rfl
    · rfl
  obtain ⟨graph, expanded, last, given, after, performed, explored, level⟩ :=
    answers.exploreOnto anchor depth baseWellFormed run log
  obtain ⟨samePerform, stillSettled, _⟩ := agree (run.withLog log) settled
  rw [performed] at samePerform
  rw [samePerform] at stillSettled
  refine ⟨graph, expanded, given, after, samePerform, stillSettled, explored, ?_, ?_⟩
  · intro declaration
    rw [level.mem_items_iff answers apart]
    simp only [leads_callsById_iff wellFormed distinctPaths indexed]
  · intro declaration
    rw [level.mem_found_iff answers apart]
    simp only [leads_callsById_iff wellFormed distinctPaths indexed]

end DistinctPaths

/-- The declaration is the anchor, or at most so many calls away from it in one of the
directions. -/
def Within (workspace : Workspace) (anchor : Declaration) (depth : Nat)
    (directions : List Direction) (declaration : Declaration) : Prop :=
  declaration = anchor ∨
    ∃ direction ∈ directions, ∃ steps, steps ≤ depth ∧
      Leads (workspace.callsIn direction) anchor steps declaration

/-- The graph and the queries of explorations in some directions, told in declarations. -/
structure Surveyed (workspace : Workspace) (anchor : Declaration) (depth : Nat)
    (directions : List Direction) (graph : CallGraph) (queries : List (CallQuery Declaration)) :
    Prop where
  /-- The nodes are those of the declarations within the depth. -/
  nodes : ∀ id node, graph.node? id = some node ↔
    ∃ declaration, Within workspace anchor depth directions declaration ∧
      declaration.node = node ∧ node.id = id
  /-- No two of these declarations have the same node. -/
  apart : ∀ left right, Within workspace anchor depth directions left →
    Within workspace anchor depth directions right → left.node.id = right.node.id → left = right
  /-- The declarations that are not at the depth are expanded. -/
  expanded : ∀ query, query ∈ queries ↔
    query.direction ∈ directions ∧ ∃ steps, steps < depth ∧
      Leads (workspace.callsIn query.direction) anchor steps query.item
  /-- In each direction, none is expanded twice. -/
  once : queries.Nodup

theorem surveyed_anchor
    (workspace : Workspace) (anchor : Declaration) (depth : Nat) :
    Surveyed workspace anchor depth [] (CallGraph.empty.addNode anchor.node) [] where
  nodes id node := by
    have noNode : CallGraph.empty.node? id = none := rfl
    rw [CallGraph.node?_addNode, noNode]
    by_cases isAnchor : id = anchor.node.id
    · rw [if_pos isAnchor, Option.some_inj]
      constructor
      · rintro rfl
        exact ⟨anchor, Or.inl rfl, rfl, isAnchor.symm⟩
      · rintro ⟨_, rfl | ⟨_, impossible, _⟩, isNode, _⟩
        · exact isNode
        · cases impossible
    · rw [if_neg isAnchor]
      constructor
      · intro impossible
        cases impossible
      · rintro ⟨_, rfl | ⟨_, impossible, _⟩, rfl, rfl⟩
        · exact absurd rfl isAnchor
        · cases impossible
  apart left right := by
    rintro (rfl | ⟨_, impossible, _⟩) (rfl | ⟨_, impossible, _⟩) _
    · rfl
    · cases impossible
    · cases impossible
    · cases impossible
  expanded := by simp
  once := List.nodup_nil

theorem mem_of_within
    {anchor declaration : Declaration} (indexed : anchor ∈ workspace.index.allFunctions)
    {depth : Nat} {directions : List Direction}
    (within : Within workspace anchor depth directions declaration) :
    declaration ∈ workspace.index.allFunctions := by
  rcases within with rfl | ⟨_, _, _, _, leads⟩
  · exact indexed
  · exact mem_of_leads indexed leads

theorem within_cons_iff
    {anchor declaration : Declaration} {depth : Nat} {directions : List Direction} :
    Within workspace anchor depth (direction :: directions) declaration ↔
      (∃ steps, steps ≤ depth ∧
        Leads (workspace.callsIn direction) anchor steps declaration) ∨
        Within workspace anchor depth directions declaration := by
  rw [Within, Within, List.exists_mem_cons_iff]
  exact or_left_comm

section Explored

variable (wellFormed : workspace.WellFormed) (distinctPaths : workspace.DistinctPaths)
  {anchor : Declaration} (indexed : anchor ∈ workspace.index.allFunctions) {depth : Nat}
  {directions : List Direction} {graph : CallGraph} {queries : List (CallQuery Declaration)}
  (surveyed : Surveyed workspace anchor depth directions graph queries)
include wellFormed distinctPaths indexed

theorem apart_of_within
    {left right : Declaration} (leftWithin : Within workspace anchor depth directions left)
    (rightWithin : Within workspace anchor depth directions right)
    (sameId : left.node.id = right.node.id) :
    left = right :=
  wellFormed.eq_of_id_eq distinctPaths (mem_of_within indexed leftWithin)
    (mem_of_within indexed rightWithin) sameId

include surveyed

/-- The nodes after one more exploration, given what it found. -/
theorem Surveyed.nodes_explored
    {engine : Engine Workspace Declaration} (nodeEq : engine.node = Declaration.node)
    {given : List (Answer Declaration)} {progress : Progress}
    (explored : Explored engine direction graph given progress)
    (found : ∀ declaration, declaration = anchor ∨ declaration ∈ given.flatMap Answer.found ↔
      ∃ steps, steps ≤ depth ∧ Leads (workspace.callsIn direction) anchor steps declaration)
    (id : NodeId) (node : CallNode) :
    progress.graph.node? id = some node ↔
      ∃ declaration, Within workspace anchor depth (direction :: directions) declaration ∧
        declaration.node = node ∧ node.id = id := by
  have origin : ∀ node, progress.graph.node? id = some node →
      ∃ declaration, Within workspace anchor depth (direction :: directions) declaration ∧
        declaration.node = node ∧ node.id = id := by
    intro node nodeFound
    have ownId := explored.wellFormed.keyed id node nodeFound
    rcases explored.origin id node nodeFound with before | ⟨declaration, member, isNode⟩
    · obtain ⟨declaration, within, isNode, _⟩ := (surveyed.nodes id node).1 before
      exact ⟨declaration, within_cons_iff.2 (Or.inr within), isNode, ownId⟩
    · have within := (found declaration).1 (Or.inr member)
      rw [nodeEq] at isNode
      exact ⟨declaration, within_cons_iff.2 (Or.inl within), isNode, ownId⟩
  have old : ∀ declaration, Within workspace anchor depth directions declaration →
      graph.containsNode declaration.node.id = true := by
    intro declaration within
    exact CallGraph.containsNode_iff.2
      ⟨_, (surveyed.nodes _ _).2 ⟨declaration, within, rfl, rfl⟩⟩
  refine ⟨origin node, ?_⟩
  rintro ⟨declaration, within, rfl, rfl⟩
  have present : progress.graph.containsNode declaration.node.id = true := by
    rw [explored.nodes, nodeEq]
    rcases within_cons_iff.1 within with now | before
    · rcases (found declaration).2 now with rfl | member
      · exact Or.inl (old declaration (Or.inl rfl))
      · exact Or.inr ⟨declaration, member, rfl⟩
    · exact Or.inl (old declaration before)
  -- Only one declaration has the id, so the node under it is the node of that declaration.
  obtain ⟨node, nodeFound⟩ := CallGraph.containsNode_iff.1 present
  obtain ⟨other, otherWithin, rfl, sameId⟩ := origin node nodeFound
  rwa [apart_of_within wellFormed distinctPaths indexed otherWithin within sameId] at nodeFound

/-- What one more exploration does, in a direction that has not been explored yet. -/
theorem Surveyed.explore
    (graphWellFormed : graph.WellFormed) (direction : Direction) (fresh : direction ∉ directions)
    {run : Run Workspace} (settled : run.state = workspace) :
    ∃ next more, ∃ after : Run Workspace,
      (exploreFrom engine.traced direction depth anchor graph).perform (run.withLog queries) =
        (.ok next, after.withLog more) ∧
      after.state = workspace ∧ next.WellFormed ∧
      Surveyed workspace anchor depth (direction :: directions) next more := by
  obtain ⟨next, expanded, given, after, performed, stillSettled, explored, asked, found⟩ :=
    exists_explored wellFormed distinctPaths direction indexed depth graphWellFormed settled queries
  refine ⟨next, _, after, performed, stillSettled, explored.wellFormed, ?_, ?_, ?_, ?_⟩
  · exact surveyed.nodes_explored wellFormed distinctPaths indexed rfl explored found
  · intro left right
    exact apart_of_within wellFormed distinctPaths indexed
  · intro query
    rw [List.mem_append, mem_map_query, surveyed.expanded, asked, List.mem_cons, or_and_right,
      or_comm]
    apply or_congr_left
    constructor
    · rintro ⟨rfl, steps⟩
      exact ⟨rfl, steps⟩
    · rintro ⟨rfl, steps⟩
      exact ⟨rfl, steps⟩
  · refine List.nodup_append.2 ⟨surveyed.once, explored.nodup_map_query, ?_⟩
    rintro query before _ now rfl
    have notBefore := (mem_map_query.1 now).1
    rw [← notBefore] at fresh
    exact fresh ((surveyed.expanded query).1 before).1

end Explored

/-! ## Graphs of declarations -/

/-- Both operations give the same graph, which surveys a workspace in some directions. -/
def Draws (plain : Operation Workspace CallGraph)
    (traced : Operation (Workspace × List (CallQuery Declaration)) CallGraph) (run : Run Workspace)
    (workspace : Workspace) (anchor : Declaration) (depth : Nat) (directions : List Direction) :
    Prop :=
  ∃ graph queries after, plain.perform run = (.ok graph, after) ∧
    traced.perform (run.withLog []) = (.ok graph, after.withLog queries) ∧
    Surveyed workspace anchor depth directions graph queries

section Seeded

variable {run prepared : Run Workspace} {document : Snapshot} {position : Position}
  {anchor : Declaration}

theorem perform_seed_traced
    (found : (run.state.index.find document position).1 = some anchor) :
    ∃ prepared : Run Workspace,
      prepared.state = ⟨run.state.index.perform (.find document position), run.state.held⟩ ∧
      (seed engine.traced document position).perform (run.withLog []) =
        (.ok (CallGraph.empty.addNode anchor.node, anchor), prepared.withLog []) := by
  have resolved : (engine.prepare document position).perform run =
      (.ok (some anchor), ((engine.prepare document position).perform run).2) := by
    rw [← found]
    rfl
  refine ⟨((engine.prepare document position).perform run).2, rfl, perform_seed ?_⟩
  change ((engine.prepare document position).beside).perform (run.withLog []) = _
  rw [perform_beside, resolved]

variable (wellFormed : prepared.state.WellFormed) (distinctPaths : prepared.state.DistinctPaths)
  (indexed : anchor ∈ prepared.state.index.allFunctions)
  (seeded : (seed engine.traced document position).perform (run.withLog []) =
    (.ok (CallGraph.empty.addNode anchor.node, anchor), prepared.withLog []))
  (depth : Nat)
include wellFormed distinctPaths indexed

/-- The exploration of one direction, from the anchor alone. -/
theorem exists_surveyed
    (direction : Direction) :
    ∃ graph queries, ∃ after : Run Workspace,
      (exploreFrom engine.traced direction depth anchor
        (CallGraph.empty.addNode anchor.node)).perform (prepared.withLog []) =
          (.ok graph, after.withLog queries) ∧
      after.state = prepared.state ∧ graph.WellFormed ∧
      Surveyed prepared.state anchor depth [direction] graph queries :=
  (surveyed_anchor prepared.state anchor depth).explore wellFormed distinctPaths indexed
    (CallGraph.wellFormed_empty.addNode anchor.node) direction List.not_mem_nil rfl

include seeded

theorem draws_oneWay
    (direction : Direction) :
    Draws
      (seed engine document position >>= fun seeded =>
        exploreFrom engine direction depth seeded.2 seeded.1)
      (seed engine.traced document position >>= fun seeded =>
        exploreFrom engine.traced direction depth seeded.2 seeded.1)
      run prepared.state anchor depth [direction] := by
  obtain ⟨graph, queries, after, performed, _, _, surveyed⟩ :=
    exists_surveyed wellFormed distinctPaths indexed depth direction
  have traced : (seed engine.traced document position >>= fun seeded =>
      exploreFrom engine.traced direction depth seeded.2 seeded.1).perform (run.withLog []) =
        (.ok graph, after.withLog queries) := by
    rw [perform_bind_of_ok seeded]
    exact performed
  have traces := traces_seed_explore engine direction document position depth
  exact ⟨graph, queries, after, traces.perform_plain traced, traced, surveyed⟩

theorem draws_callGraph :
    Draws (callGraph engine document position depth)
      (callGraph engine.traced document position depth) run prepared.state anchor depth
      [.callees, .callers] := by
  obtain ⟨callers, callersQueries, middle, callersPerformed, settled, callersWellFormed,
    callersSurveyed⟩ := exists_surveyed wellFormed distinctPaths indexed depth .callers
  obtain ⟨graph, queries, after, performed, _, _, surveyed⟩ :=
    callersSurveyed.explore wellFormed distinctPaths indexed callersWellFormed .callees (by decide)
      settled
  have traced : (callGraph engine.traced document position depth).perform (run.withLog []) =
      (.ok graph, after.withLog queries) := by
    rw [callGraph, perform_bind_of_ok seeded, perform_bind_of_ok callersPerformed]
    exact performed
  have traces := traces_callGraph engine document position depth
  exact ⟨graph, queries, after, traces.perform_plain traced, traced, surveyed⟩

end Seeded

/-- Two declarations of a reachable index share an id only across two documents with one path. While
documents have different paths, ids stand for declarations, and the graphs around a declaration have
one node for each declaration within the depth, found by expanding each nearer one once. -/
theorem declarations_have_nodes_of_their_own
    {keyword : Keyword} {run : Run Workspace} (reachable : Workspace.Reachable keyword run.state) :
    (∀ left ∈ run.state.index.allFunctions, ∀ right ∈ run.state.index.allFunctions,
      left.node.id = right.node.id →
        left = right ∨ left.uri ≠ right.uri ∧ left.uri.path = right.uri.path) ∧
      (run.state.DistinctPaths →
        ∀ left ∈ run.state.index.allFunctions, ∀ right ∈ run.state.index.allFunctions,
          left ≠ right → left.node.id ≠ right.node.id) ∧
      ∀ (document : Snapshot) (position : Position) (anchor : Declaration) (prepared : Workspace),
        (run.state.index.find document position).1 = some anchor →
        prepared = ⟨run.state.index.perform (.find document position), run.state.held⟩ →
        prepared.DistinctPaths → ∀ depth,
          Draws (callersGraph engine document position depth)
            (callersGraph engine.traced document position depth) run prepared anchor depth
            [.callers] ∧
          Draws (calleesGraph engine document position depth)
            (calleesGraph engine.traced document position depth) run prepared anchor depth
            [.callees] ∧
          Draws (callGraph engine document position depth)
            (callGraph engine.traced document position depth) run prepared anchor depth
            [.callees, .callers] := by
  refine ⟨?_, ?_, ?_⟩
  · intro left leftMember right rightMember
    exact reachable.wellFormed.eq_or_samePath leftMember rightMember
  · intro distinctPaths left leftMember right rightMember different sameId
    exact different
      (reachable.wellFormed.eq_of_id_eq distinctPaths leftMember rightMember sameId)
  · intro document position anchor workspace found preparedEq distinctPaths depth
    obtain ⟨prepared, settled, seeded⟩ := perform_seed_traced found
    have wellFormed : prepared.state.WellFormed := by
      rw [settled]
      exact reachable.wellFormed.perform (.find document position)
    have indexed : anchor ∈ prepared.state.index.allFunctions := by
      rw [settled]
      exact Workspace.mem_of_find found
    rw [preparedEq, ← settled] at distinctPaths ⊢
    refine ⟨?_, ?_, ?_⟩
    · exact draws_oneWay wellFormed distinctPaths indexed seeded depth .callers
    · exact draws_oneWay wellFormed distinctPaths indexed seeded depth .callees
    · exact draws_callGraph wellFormed distinctPaths indexed seeded depth

/-- A text with two functions: `g`, and `h` which calls it. -/
def twinDocument (uri : Uri) : Snapshot :=
  ⟨uri, [], 1,
    ['f', ' ', 'g', '\x7b', '\n', '\x7d', '\n', 'f', ' ', 'h', '\x7b', '\n', 'g', '\n', '\x7d']⟩

def twinRun (first second : Uri) : Run Workspace :=
  .start ⟨(SyntaxIndex.empty ⟨['f'], Eq.refl true⟩).run
    [.ensureTree (twinDocument first), .ensureTree (twinDocument second)], []⟩ true

def plainFile : Uri := ⟨['f', 'i', 'l', 'e', ':', '/', '/', '/', 'a'], Eq.refl true⟩

/-- Another reference to the same file, with its letter encoded. -/
def encodedFile : Uri := ⟨['f', 'i', 'l', 'e', ':', '/', '/', '/', '%', '6', '1'], Eq.refl true⟩

def otherFile : Uri := ⟨['f', 'i', 'l', 'e', ':', '/', '/', '/', 'b'], Eq.refl true⟩

def twinAnchor (uri : Uri) : Declaration :=
  ⟨['g'], uri, ⟨⟨0, 0⟩, ⟨1, 1⟩⟩, ⟨⟨0, 2⟩, ⟨0, 3⟩⟩, ⟨⟨1, 0⟩, ⟨1, 0⟩⟩, ⟨0⟩⟩

theorem twinFiles_have_nodes_of_their_own :
    Workspace.Reachable ⟨['f'], by decide⟩ (twinRun plainFile otherFile).state ∧
    (twinRun plainFile otherFile).state.DistinctPaths ∧
    (twinRun plainFile otherFile).state.index.allFunctions.length = 4 ∧
    (∀ left ∈ (twinRun plainFile otherFile).state.index.allFunctions,
      ∀ right ∈ (twinRun plainFile otherFile).state.index.allFunctions,
        left ≠ right → left.node.id ≠ right.node.id) ∧
    ((twinRun plainFile otherFile).state.index.find (twinDocument plainFile) ⟨0, 2⟩).1 =
      some (twinAnchor plainFile) ∧
    ∃ prepared : Workspace, prepared.DistinctPaths ∧
      Draws (callersGraph engine (twinDocument plainFile) ⟨0, 2⟩ 1)
        (callersGraph engine.traced (twinDocument plainFile) ⟨0, 2⟩ 1)
        (twinRun plainFile otherFile) prepared (twinAnchor plainFile) 1 [.callers] := by
  have reachable : Workspace.Reachable ⟨['f'], by decide⟩ (twinRun plainFile otherFile).state :=
    Workspace.reachable_run _ _
  have distinctPaths : (twinRun plainFile otherFile).state.DistinctPaths := by decide +kernel
  have found : ((twinRun plainFile otherFile).state.index.find (twinDocument plainFile)
      ⟨0, 2⟩).1 = some (twinAnchor plainFile) := by decide +kernel
  have preparedPaths : Workspace.DistinctPaths
      ⟨(twinRun plainFile otherFile).state.index.perform (.find (twinDocument plainFile) ⟨0, 2⟩),
        (twinRun plainFile otherFile).state.held⟩ := by decide +kernel
  obtain ⟨_, apart, graphs⟩ := declarations_have_nodes_of_their_own reachable
  exact ⟨reachable, distinctPaths, by decide +kernel, apart distinctPaths, found, _, preparedPaths,
    (graphs _ _ _ _ found rfl preparedPaths 1).1⟩

/-- One file under two references: its functions are different declarations with the same ids, and
the two callers of the first of them become one node. -/
theorem references_to_one_file_share_ids :
    Workspace.Reachable ⟨['f'], by decide⟩ (twinRun plainFile encodedFile).state ∧
    (∃ left ∈ (twinRun plainFile encodedFile).state.index.allFunctions,
      ∃ right ∈ (twinRun plainFile encodedFile).state.index.allFunctions,
        left ≠ right ∧ left.node.id = right.node.id) ∧
    ((twinRun plainFile encodedFile).state.incomingCalls (twinAnchor plainFile)).length = 2 ∧
    ((callersGraph engine (twinDocument plainFile) ⟨0, 2⟩ 1).perform
      (twinRun plainFile encodedFile)).1.toOption.map CallGraph.nodeCount = some 2 :=
  ⟨Workspace.reachable_run _ _, by decide +kernel, by decide +kernel, by decide +kernel⟩

end DirectSearch

end CallHierarchy
