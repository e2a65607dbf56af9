import CallHierarchy.Proofs.Graph.DirectEdges

/-!
The nodes of searches. An exploration adds no other nodes than those of the symbols it is led to, so
that every node which a search of bodies draws is the node of a declaration, and its name is a run of
name characters. Whatever paths two documents have, and whichever workspaces were searched, the ids of
two such nodes are equal only where the paths, the places of the names and the names are.
-/

namespace CallHierarchy

namespace Exploration

open Operation

section Known

variable {σ Item : Type} {engine : Engine σ Item} {direction : Direction} {holds : σ → Prop}
  {known : Item → Prop} {shows : CallGraph → Prop}
  (answered : ∀ item, known item →
    Yields holds (fun found => ∀ call ∈ found, known call.symbol) (calls engine direction item))
  (added : ∀ graph expanded call, shows graph → known call.symbol →
    shows (addCall engine direction expanded graph call))
include answered added

theorem yields_expandItem
    {progress : Progress} (shown : shows progress.graph) {item : Item} (isKnown : known item) :
    Yields holds (fun expanded => (∀ found ∈ expanded.1, known found) ∧ shows expanded.2.graph)
      (expandItem engine direction progress item) := by
  by_cases before : (engine.node item).id ∈ progress.expanded
  · rw [expandItem_of_mem engine direction before]
    exact yields_pure ⟨by simp, shown⟩
  · rw [expandItem_of_not_mem engine direction before]
    refine (answered item isKnown).bind ?_
    intro found foundKnown
    refine yields_pure ⟨List.forall_mem_map.2 foundKnown, ?_⟩
    exact List.foldlRecOn found _ shown fun graph stillShown call member =>
      added graph _ call stillShown (foundKnown call member)

theorem yields_expandLevel
    {progress : Progress} (shown : shows progress.graph) {items : List Item}
    (allKnown : ∀ item ∈ items, known item) :
    Yields holds (fun expanded => (∀ found ∈ expanded.1, known found) ∧ shows expanded.2.graph)
      (expandLevel engine direction progress items) := by
  induction items generalizing progress with
  | nil => exact yields_pure ⟨by simp, shown⟩
  | cons item rest inductionHypothesis =>
      obtain ⟨itemKnown, restKnown⟩ := List.forall_mem_cons.1 allKnown
      refine (yields_expandItem answered added shown itemKnown).bind ?_
      rintro expanded ⟨foundKnown, nextShown⟩
      refine (inductionHypothesis nextShown restKnown).bind ?_
      rintro later ⟨laterKnown, finalShown⟩
      exact yields_pure ⟨List.forall_mem_append.2 ⟨foundKnown, laterKnown⟩, finalShown⟩

/-- What the graph shows, and every call to a known symbol keeps, is shown after an exploration of
known symbols that only lead to known ones. -/
theorem yields_explore
    (remaining level : Nat) {progress : Progress} (shown : shows progress.graph)
    {frontier : List Item} (allKnown : ∀ item ∈ frontier, known item) :
    Yields holds shows (explore engine direction remaining level frontier progress) := by
  induction remaining generalizing level frontier progress with
  | zero => exact yields_pure shown
  | succ remaining inductionHypothesis =>
      cases frontier with
      | nil => exact (yields_emit _).bind fun _ _ => yields_pure shown
      | cons item rest =>
          refine (yields_expandLevel answered added shown allKnown).bind ?_
          rintro expanded ⟨foundKnown, nextShown⟩
          exact (yields_emit _).bind fun _ _ =>
            inductionHypothesis (level + 1) nextShown foundKnown

end Known

end Exploration

namespace DirectSearch

open Operation Exploration

def DeclaredNodes (workspace : Workspace) (graph : CallGraph) : Prop :=
  ∀ id node, graph.node? id = some node →
    ∃ declaration ∈ workspace.index.allFunctions, declaration.node = node

/-- An exploration from a declaration adds nodes of declarations only. -/
theorem yields_declaredNodes
    {workspace : Workspace} (direction : Direction) (depth : Nat) {anchor : Declaration}
    (indexed : anchor ∈ workspace.index.allFunctions) {graph : CallGraph}
    (declared : DeclaredNodes workspace graph) :
    Yields (· = workspace) (DeclaredNodes workspace)
      (exploreFrom engine direction depth anchor graph) := by
  have answered : ∀ item ∈ workspace.index.allFunctions,
      Yields (· = workspace)
        (fun found => ∀ call ∈ found, call.symbol ∈ workspace.index.allFunctions)
        (calls engine direction item) := by
    intro item _
    refine (yields_calls direction item).imp ?_
    rintro _ rfl call member
    exact Workspace.mem_of_mem_callsIn member
  have added : ∀ before expanded call, DeclaredNodes workspace before →
      call.symbol ∈ workspace.index.allFunctions →
        DeclaredNodes workspace (addCall engine direction expanded before call) := by
    intro before expanded call shown called id node found
    rcases node?_addCall found with old | isCalled
    · exact shown id node old
    · exact ⟨call.symbol, called, isCalled⟩
  exact yields_explore answered added depth 0 declared (List.forall_mem_singleton.2 indexed)

theorem find_of_perform_seed
    {document : Snapshot} {position : Position} {run after : Run Workspace}
    {seeded : CallGraph × Declaration}
    (performed : (seed engine document position).perform run = (.ok seeded, after)) :
    ∃ anchor, (run.state.index.find document position).1 = some anchor := by
  obtain ⟨symbol, middle, resolved, rest⟩ := perform_bind_ok performed
  obtain rfl : (run.state.index.find document position).1 = symbol :=
    Except.ok.inj (congrArg Prod.fst resolved)
  cases found : (run.state.index.find document position).1 with
  | some anchor => exact ⟨anchor, rfl⟩
  | none =>
      rw [found] at rest
      cases rest

/-- A graph that is drawn from the symbol at a position has the nodes of declarations only. -/
theorem declaredNodes_of_perform_bind
    {document : Snapshot} {position : Position} {run after : Run Workspace} {graph : CallGraph}
    {next : CallGraph × Declaration → Operation Workspace CallGraph}
    (explored : ∀ workspace start anchor, anchor ∈ workspace.index.allFunctions →
      DeclaredNodes workspace start →
        Yields (· = workspace) (DeclaredNodes workspace) (next (start, anchor)))
    (performed : (seed engine document position >>= next).perform run = (.ok graph, after)) :
    DeclaredNodes ⟨run.state.index.perform (.find document position), run.state.held⟩ graph := by
  obtain ⟨_, _, seededSome, _⟩ := perform_bind_ok performed
  obtain ⟨anchor, found⟩ := find_of_perform_seed seededSome
  obtain ⟨middle, settled, seeded⟩ := exists_seeded found
  have indexed : anchor ∈ middle.state.index.allFunctions := by
    rw [settled]
    exact Workspace.mem_of_find found
  obtain ⟨drawn, _, drawnPerformed, _, declared⟩ :=
    explored middle.state _ anchor indexed (showsCalls_anchor indexed).nodes middle rfl
  rw [perform_bind_of_ok seeded, drawnPerformed] at performed
  cases performed
  rwa [settled] at declared

def drawings (document : Snapshot) (position : Position) (depth : Nat) :
    List (Operation Workspace CallGraph) :=
  [callersGraph engine document position depth, calleesGraph engine document position depth,
    callGraph engine document position depth]

theorem declaredNodes_of_drawing
    {document : Snapshot} {position : Position} {depth : Nat} {run after : Run Workspace}
    {operation : Operation Workspace CallGraph} {graph : CallGraph}
    (drawing : operation ∈ drawings document position depth)
    (performed : operation.perform run = (.ok graph, after)) :
    DeclaredNodes ⟨run.state.index.perform (.find document position), run.state.held⟩ graph := by
  simp only [drawings, List.mem_cons, List.not_mem_nil, or_false] at drawing
  rcases drawing with rfl | rfl | rfl
  · refine declaredNodes_of_perform_bind ?_ performed
    intro workspace start anchor indexed declared
    exact yields_declaredNodes .callers depth indexed declared
  · refine declaredNodes_of_perform_bind ?_ performed
    intro workspace start anchor indexed declared
    exact yields_declaredNodes .callees depth indexed declared
  · refine declaredNodes_of_perform_bind ?_ performed
    intro workspace start anchor indexed declared
    refine (yields_declaredNodes .callers depth indexed declared).bind ?_
    intro callers callersDeclared
    exact yields_declaredNodes .callees depth indexed callersDeclared

/-- The nodes of searches in any reachable workspaces: those of the declarations of living trees, and
those in the graphs that are drawn. -/
inductive IsSearchNode : CallNode → Prop
  | declared {keyword : Keyword} {workspace : Workspace} {tree : SyntaxTree}
      {declaration : Declaration} :
      Workspace.Reachable keyword workspace → tree ∈ workspace.liveTrees →
      declaration ∈ tree.declarations →
      IsSearchNode (engine.node declaration)
  | drawn {keyword : Keyword} {run after : Run Workspace} {document : Snapshot}
      {position : Position} {depth : Nat} {operation : Operation Workspace CallGraph}
      {graph : CallGraph} {id : NodeId} {node : CallNode} :
      Workspace.Reachable keyword run.state → operation ∈ drawings document position depth →
      operation.perform run = (.ok graph, after) → graph.node? id = some node →
      IsSearchNode node

/-- Every node of a search is the node of a declaration with a proper name. -/
theorem IsSearchNode.exists_declaration
    {node : CallNode} (searched : IsSearchNode node) :
    ∃ declaration : Declaration, IsName declaration.name ∧ declaration.node = node := by
  cases searched with
  | @declared _ workspace tree declaration reachable live declared =>
      rw [reachable.wellFormed.parsed tree live] at declared
      exact ⟨declaration, SyntaxTree.isName_of_mem_parse declared, rfl⟩
  | @drawn _ run _ document position _ _ _ _ _ reachable drawing performed found =>
      have wellFormed := reachable.wellFormed.perform (.find document position)
      obtain ⟨declaration, indexed, isNode⟩ :=
        declaredNodes_of_drawing drawing performed _ _ found
      exact ⟨declaration, wellFormed.isName (List.mem_map_of_mem indexed), isNode⟩

/-- An id whose name has no colon tells the path, the line, the column and the name, whatever the path
looks like. So the ids of two nodes of searches, whose names are runs of name characters, are equal
exactly when the paths, the places of the names and the names are. -/
theorem ids_determine_their_parts :
    (∀ path path' line line' column column' name name', ':' ∉ name → ':' ∉ name' →
      NodeId.ofParts path line column name = NodeId.ofParts path' line' column' name' →
        path = path' ∧ line = line' ∧ column = column' ∧ name = name') ∧
      ∀ left right, IsSearchNode left → IsSearchNode right →
        IsName left.name ∧ IsName right.name ∧
          (left.id = right.id ↔
            left.path = right.path ∧
              left.selectionRange.start = right.selectionRange.start ∧
              left.name = right.name) := by
  refine ⟨?_, ?_⟩
  · intro path path' line line' column column' name name' noColon noColon' same
    exact NodeId.ofParts_inj noColon noColon' same
  · intro left right leftSearched rightSearched
    obtain ⟨leftDeclaration, leftNamed, rfl⟩ := leftSearched.exists_declaration
    obtain ⟨rightDeclaration, rightNamed, rfl⟩ := rightSearched.exists_declaration
    exact ⟨leftNamed, rightNamed, Declaration.id_node_eq_iff leftNamed rightNamed⟩

/-- Without the condition on names, a path and a name can share a place. -/
example :
    NodeId.ofParts ['/', 'a'] 1 2 ['3', ':', '4', ':', 'g'] =
      NodeId.ofParts ['/', 'a', ':', '1', ':', '2'] 3 4 ['g'] := by
  decide

/-- A file whose path ends like the beginning of a place. -/
def numberedFile : Uri :=
  ⟨['f', 'i', 'l', 'e', ':', '/', '/', '/', 'a', ':', '1'], Eq.refl true⟩

/-- Another reference to that file, with its colon encoded. -/
def encodedNumberedFile : Uri :=
  ⟨['f', 'i', 'l', 'e', ':', '/', '/', '/', 'a', '%', '3', 'A', '1'], Eq.refl true⟩

/-- The same function under the two references, the one declared and the other drawn: their nodes are
different and share an id, which names the path that both references have. -/
theorem numberedFile_ids_determine_parts :
    let left := (twinAnchor numberedFile).node
    let right := (twinAnchor encodedNumberedFile).node
    IsSearchNode left ∧ IsSearchNode right ∧ left ≠ right ∧ left.id = right.id ∧
      left.path = right.path ∧ left.selectionRange.start = right.selectionRange.start ∧
      left.name = right.name ∧ ':' ∉ left.name ∧
      ∀ path line column, NodeId.ofParts path line column left.name = left.id →
        path = ['/', 'a', ':', '1'] ∧ line = 0 ∧ column = 2 := by
  intro left right
  let leftRun := twinRun numberedFile otherFile
  let leftTree := SyntaxTree.parse ⟨['f'], Eq.refl true⟩ ⟨0⟩ (twinDocument numberedFile)
  have leftReachable : Workspace.Reachable ⟨['f'], Eq.refl true⟩ leftRun.state :=
    Workspace.reachable_run _ _
  have live : leftTree ∈ leftRun.state.liveTrees := by decide +kernel
  have declared : twinAnchor numberedFile ∈ leftTree.declarations := by decide +kernel
  have leftSearched : IsSearchNode left := .declared leftReachable live declared
  let rightRun := twinRun encodedNumberedFile otherFile
  let drawing := calleesGraph engine (twinDocument encodedNumberedFile) ⟨0, 2⟩ 1
  have rightReachable : Workspace.Reachable ⟨['f'], Eq.refl true⟩ rightRun.state :=
    Workspace.reachable_run _ _
  have shown : (drawing.perform rightRun).1.toOption.map (·.node? right.id) =
      some (some right) := by decide +kernel
  have rightSearched : IsSearchNode right := by
    rcases performed : drawing.perform rightRun with ⟨_ | graph, after⟩
    · rw [performed] at shown
      cases shown
    · rw [performed] at shown
      exact .drawn rightReachable (List.mem_cons_of_mem _ List.mem_cons_self) performed
        (Option.some.inj shown)
  have sameId : left.id = right.id := by decide +kernel
  have noColon : ':' ∉ left.name := by decide
  obtain ⟨parts, nodes⟩ := ids_determine_their_parts
  obtain ⟨-, -, agree⟩ := nodes left right leftSearched rightSearched
  obtain ⟨samePath, sameStart, sameName⟩ := agree.1 sameId
  refine ⟨leftSearched, rightSearched, by decide, sameId, samePath, sameStart, sameName, noColon, ?_⟩
  intro path line column isId
  obtain ⟨pathEq, lineEq, columnEq, -⟩ :=
    parts path left.path line 0 column 2 left.name left.name noColon noColon isId
  have leftPath : left.path = ['/', 'a', ':', '1'] := by decide +kernel
  exact ⟨pathEq.trans leftPath, lineEq, columnEq⟩

end DirectSearch

end CallHierarchy
