import CallHierarchy.Proofs.Document.Words
import CallHierarchy.Proofs.Graph.DirectGraphs

/-!
Callers and callees are dual. While every name is declared once, one declaration is among the calls
out of another exactly when the other is among the calls into it; so a chain of calls turned around
is a chain of callers of the same length, and what is found from its two ends is the same.
-/

namespace CallHierarchy

open Exploration

namespace Exploration

variable {Item : Type} {answerOf converseOf : Item → List (Call Item)}

theorem Leads.cons
    {first : Item} {call : Call Item} (called : call ∈ answerOf first)
    {steps : Nat} {last : Item} (leads : Leads answerOf call.symbol steps last) :
    Leads answerOf first (steps + 1) last := by
  induction leads with
  | start => exact Leads.start.call called
  | call _ member inductionHypothesis => exact inductionHypothesis.call member

/-- If every call has a converse, then a chain of calls has one, too. -/
theorem Leads.converse
    {known : Item → Prop}
    (turned : ∀ source, known source → ∀ call ∈ answerOf source,
      known call.symbol ∧ ∃ back ∈ converseOf call.symbol, back.symbol = source)
    {start : Item} (startKnown : known start) {steps : Nat} {last : Item}
    (leads : Leads answerOf start steps last) :
    known last ∧ Leads converseOf last steps start := by
  induction leads with
  | start => exact ⟨startKnown, Leads.start⟩
  | call _ member inductionHypothesis =>
      obtain ⟨sourceKnown, back⟩ := inductionHypothesis
      obtain ⟨calledKnown, backCall, backMember, rfl⟩ := turned _ sourceKnown _ member
      exact ⟨calledKnown, back.cons backMember⟩

end Exploration

def Direction.opposite : Direction → Direction
  | callers => callees
  | callees => callers

namespace Workspace

def DistinctNames (workspace : Workspace) : Prop :=
  (workspace.index.allFunctions.map Declaration.name).Nodup

instance (workspace : Workspace) : Decidable workspace.DistinctNames :=
  inferInstanceAs (Decidable (List.Nodup _))

section DistinctNames

variable {workspace : Workspace} (distinctNames : workspace.DistinctNames)
  {direction : Direction} {declaration : Declaration}
  (indexed : declaration ∈ workspace.index.allFunctions)
include distinctNames indexed

theorem DistinctNames.findByName?_eq :
    workspace.index.findByName? declaration.name = some declaration := by
  obtain ⟨target, found⟩ := exists_findByName? indexed
  have sameName := name_of_findByName? found
  rwa [List.inj_on_of_nodup_map distinctNames (mem_of_findByName? found) indexed sameName] at found

/-- While names are declared once, every call has a converse. -/
theorem DistinctNames.exists_back
    {call : Call Declaration} (called : call ∈ workspace.callsIn direction declaration) :
    ∃ back ∈ workspace.callsIn direction.opposite call.symbol, back.symbol = declaration := by
  refine ⟨⟨declaration, call.sites⟩, ?_, rfl⟩
  cases direction with
  | callers =>
      obtain ⟨_, someSite, sitesEq⟩ := mem_incomingCalls.1 called
      exact mem_outgoingCalls.2 ⟨distinctNames.findByName?_eq indexed, someSite, sitesEq⟩
  | callees =>
      obtain ⟨_, someSite, sitesEq⟩ := mem_outgoingCalls.1 called
      exact mem_incomingCalls.2 ⟨indexed, someSite, sitesEq⟩

theorem DistinctNames.leads_opposite
    {steps : Nat} {last : Declaration}
    (leads : Leads (workspace.callsIn direction) declaration steps last) :
    Leads (workspace.callsIn direction.opposite) last steps declaration := by
  refine (leads.converse ?_ indexed).2
  intro source known call called
  exact ⟨mem_of_mem_callsIn called, distinctNames.exists_back known called⟩

end DistinctNames

end Workspace

namespace DirectSearch

open Operation Exploration

section Cached

variable {run : Run Workspace} (wellFormed : run.state.WellFormed)
  (fits : ∀ tree ∈ run.state.index.trees, Text.FitsPositions tree.document.text)
  (distinctNames : run.state.DistinctNames)
  {tree : SyntaxTree} (cached : tree ∈ run.state.index.trees)
  {declaration : Declaration} (declared : declaration ∈ tree.declarations)
  {position : Position} (within : declaration.nameRange.contains position = true)
include wellFormed fits distinctNames cached declared within

/-- A position on the name of a declaration, in the document that its tree is of, leads to the
declaration, and the index stays as it is. -/
theorem find_of_contains :
    run.state.index.find tree.document position = (some declaration, run.state.index) := by
  have indexed : declaration ∈ run.state.index.allFunctions :=
    List.mem_flatMap.2 ⟨tree, cached, declared⟩
  have found := SyntaxIndex.tree?_of_mem wellFormed.distinctUris cached
  have parsed := wellFormed.parsed tree (Workspace.mem_liveTrees_of_indexed cached)
  have word : SyntaxIndex.wordAt? tree.document position = some declaration.name := by
    rw [parsed] at declared
    exact (SyntaxTree.word_of_contains (fits tree cached) declared within).2
  have unchanged : (run.state.index.ensureTree tree.document).2 = run.state.index := by
    rcases run.state.index.ensureTree_cases tree.document with ⟨_, _, _, hit⟩ | ⟨missed, _⟩
    · rw [hit]
    · exact absurd rfl (missed tree found)
  rw [SyntaxIndex.find, word]
  dsimp only
  rw [unchanged, distinctNames.findByName?_eq indexed]

/-- The graph of one direction has the nodes of the declarations that a bounded number of calls
reaches. -/
theorem exists_oneWay
    (distinctPaths : run.state.DistinctPaths) (direction : Direction) (depth : Nat) :
    ∃ graph after,
      (seed engine tree.document position >>= fun seeded =>
        exploreFrom engine direction depth seeded.2 seeded.1).perform run = (.ok graph, after) ∧
      ∀ other ∈ run.state.index.allFunctions,
        graph.node? other.node.id = some other.node ↔
          ∃ steps, steps ≤ depth ∧
            Leads (run.state.callsIn direction) declaration steps other := by
  have indexed : declaration ∈ run.state.index.allFunctions :=
    List.mem_flatMap.2 ⟨tree, cached, declared⟩
  have found := find_of_contains wellFormed fits distinctNames cached declared within
  obtain ⟨prepared, preparedEq, seeded⟩ := perform_seed_traced (congrArg Prod.fst found)
  have settled : prepared.state = run.state := by
    rw [preparedEq, SyntaxIndex.perform, found]
  rw [← settled] at wellFormed distinctPaths indexed
  obtain ⟨graph, _, after, performed, _, surveyed⟩ :=
    draws_oneWay wellFormed distinctPaths indexed seeded depth direction
  refine ⟨graph, after, performed, ?_⟩
  intro other otherIndexed
  rw [surveyed.nodes, ← settled]
  constructor
  · rintro ⟨same, isWithin, sameNode, _⟩
    rw [← settled] at otherIndexed
    rw [← wellFormed.eq_of_id_eq distinctPaths (mem_of_within indexed isWithin) otherIndexed
      (congrArg CallNode.id sameNode)]
    rcases within_cons_iff.1 isWithin with leads | rfl | ⟨_, impossible, _⟩
    · exact leads
    · exact ⟨0, Nat.zero_le depth, Leads.start⟩
    · cases impossible
  · intro leads
    exact ⟨other, within_cons_iff.2 (Or.inl leads), rfl, rfl⟩

end Cached

/-- Let no name be declared twice in a reachable workspace, let documents have different paths, and
let their lines and columns be countable. Then the callees of one declaration, up to a depth, include
another exactly when the callers of the other, up to that depth, include the one. -/
theorem callers_and_callees_are_dual
    {keyword : Keyword} {run : Run Workspace} (reachable : Workspace.Reachable keyword run.state)
    (fits : ∀ tree ∈ run.state.index.trees, Text.FitsPositions tree.document.text)
    (distinctNames : run.state.DistinctNames) (distinctPaths : run.state.DistinctPaths)
    {callerTree calleeTree : SyntaxTree} (callerCached : callerTree ∈ run.state.index.trees)
    (calleeCached : calleeTree ∈ run.state.index.trees) {caller callee : Declaration}
    (callerDeclared : caller ∈ callerTree.declarations)
    (calleeDeclared : callee ∈ calleeTree.declarations)
    {callerPosition calleePosition : Position}
    (onCaller : caller.nameRange.contains callerPosition = true)
    (onCallee : callee.nameRange.contains calleePosition = true) (depth : Nat) :
    ∃ callees callers afterCallees afterCallers,
      (calleesGraph engine callerTree.document callerPosition depth).perform run =
        (.ok callees, afterCallees) ∧
      (callersGraph engine calleeTree.document calleePosition depth).perform run =
        (.ok callers, afterCallers) ∧
      (callees.node? callee.node.id = some callee.node ↔
        callers.node? caller.node.id = some caller.node) := by
  have wellFormed := reachable.wellFormed
  have callerIndexed : caller ∈ run.state.index.allFunctions :=
    List.mem_flatMap.2 ⟨callerTree, callerCached, callerDeclared⟩
  have calleeIndexed : callee ∈ run.state.index.allFunctions :=
    List.mem_flatMap.2 ⟨calleeTree, calleeCached, calleeDeclared⟩
  obtain ⟨callees, afterCallees, calleesPerformed, calleesNodes⟩ :=
    exists_oneWay wellFormed fits distinctNames callerCached callerDeclared onCaller distinctPaths
      .callees depth
  obtain ⟨callers, afterCallers, callersPerformed, callersNodes⟩ :=
    exists_oneWay wellFormed fits distinctNames calleeCached calleeDeclared onCallee distinctPaths
      .callers depth
  refine ⟨callees, callers, afterCallees, afterCallers, calleesPerformed, callersPerformed, ?_⟩
  rw [calleesNodes callee calleeIndexed, callersNodes caller callerIndexed]
  constructor
  · rintro ⟨steps, bounded, leads⟩
    exact ⟨steps, bounded, distinctNames.leads_opposite callerIndexed leads⟩
  · rintro ⟨steps, bounded, leads⟩
    exact ⟨steps, bounded, distinctNames.leads_opposite calleeIndexed leads⟩

/-- Two documents: `g` calls `h` and itself, `h` in the other document calls `k`, and `k` calls
`g`. -/
def outerDocument : Snapshot :=
  ⟨plainFile, [], 1,
    ['f', ' ', 'g', '\x7b', '\n', 'g', ' ', 'h', '\n', '\x7d', '\n',
      'f', ' ', 'k', '\x7b', '\n', 'g', '\n', '\x7d']⟩

def innerDocument : Snapshot :=
  ⟨otherFile, [], 1, ['f', ' ', 'h', '\x7b', '\n', 'k', '\n', '\x7d']⟩

def chainRun : Run Workspace :=
  .start ⟨(SyntaxIndex.empty ⟨['f'], Eq.refl true⟩).run
    [.ensureTree outerDocument, .ensureTree innerDocument], []⟩ true

theorem chain_callers_and_callees_are_dual :
    let keyword : Keyword := ⟨['f'], by decide⟩
    let outerTree := SyntaxTree.parse keyword ⟨0⟩ outerDocument
    let caller := Declaration.ofBlock keyword plainFile ⟨0⟩ ⟨['g'], 0, 2⟩
    let callee := Declaration.ofBlock keyword plainFile ⟨0⟩ ⟨['k'], 3, 5⟩
    Workspace.Reachable keyword chainRun.state ∧
      (∀ tree ∈ chainRun.state.index.trees, Text.FitsPositions tree.document.text) ∧
      chainRun.state.DistinctNames ∧ chainRun.state.DistinctPaths ∧
      outerTree ∈ chainRun.state.index.trees ∧ caller ∈ outerTree.declarations ∧
      callee ∈ outerTree.declarations ∧ caller.nameRange.contains ⟨0, 2⟩ = true ∧
      callee.nameRange.contains ⟨3, 3⟩ = true ∧
      ((calleesGraph engine outerDocument ⟨0, 2⟩ 2).perform chainRun).1.toOption.map
        (fun graph => graph.nodeCount) = some 3 ∧
      ∃ callees callers afterCallees afterCallers,
        (calleesGraph engine outerDocument ⟨0, 2⟩ 2).perform chainRun =
          (.ok callees, afterCallees) ∧
        (callersGraph engine outerDocument ⟨3, 3⟩ 2).perform chainRun =
          (.ok callers, afterCallers) ∧
        (callees.node? callee.node.id = some callee.node ↔
          callers.node? caller.node.id = some caller.node) := by
  intro keyword outerTree caller callee
  have reachable : Workspace.Reachable keyword chainRun.state := Workspace.reachable_run _ _
  have fits : ∀ tree ∈ chainRun.state.index.trees, Text.FitsPositions tree.document.text := by
    decide +kernel
  have distinctNames : chainRun.state.DistinctNames := by decide +kernel
  have distinctPaths : chainRun.state.DistinctPaths := by decide +kernel
  have cached : outerTree ∈ chainRun.state.index.trees := by decide +kernel
  have callerDeclared : caller ∈ outerTree.declarations := by decide +kernel
  have calleeDeclared : callee ∈ outerTree.declarations := by decide +kernel
  have onCaller : caller.nameRange.contains ⟨0, 2⟩ = true := by decide +kernel
  have onCallee : callee.nameRange.contains ⟨3, 3⟩ = true := by decide +kernel
  exact ⟨reachable, fits, distinctNames, distinctPaths, cached, callerDeclared, calleeDeclared,
    onCaller, onCallee, by decide +kernel,
    callers_and_callees_are_dual reachable fits distinctNames distinctPaths cached cached
      callerDeclared calleeDeclared onCaller onCallee 2⟩

end DirectSearch

end CallHierarchy
