import CallHierarchy.Proofs.Engine.Symmetry

/-!
Declarations and the lives of their trees. What an index gives out belongs to the tree that it keeps
for the document, so no search of a caller stops at a missing tree. A tree that was replaced lives as
long as it is held, and its number is not given out again: until the last holder lets go, its
declarations search the text that they were read from, and after that they have no text.
-/

namespace CallHierarchy

namespace Workspace

/-- The declaration is one of the tree that the index has for its document, and this tree is the one
that it knows. -/
def Current (workspace : Workspace) (declaration : Declaration) : Prop :=
  ∃ tree,
    workspace.index.tree? declaration.uri = some tree ∧ declaration ∈ tree.declarations ∧
      workspace.treeOf? declaration = some tree

section OneWorkspace

variable {workspace : Workspace} {declaration : Declaration} {tree : SyntaxTree}

/-- Every declaration of an index is one of the tree that its document has now. -/
theorem WellFormed.current
    (wellFormed : workspace.WellFormed)
    (indexed : declaration ∈ workspace.index.allFunctions) :
    workspace.Current declaration := by
  obtain ⟨tree, treeIndexed, declared⟩ := List.mem_flatMap.1 indexed
  have live := mem_liveTrees_of_indexed treeIndexed
  refine ⟨tree, ?_, declared, wellFormed.treeOf?_eq live declared⟩
  rw [wellFormed.uri_of_declared live declared]
  exact SyntaxIndex.tree?_of_mem wellFormed.distinctUris treeIndexed

theorem callSites_of_treeOf?
    (alive : workspace.treeOf? declaration = some tree) (name : Text) :
    workspace.callSites declaration name = tree.callSites declaration name := by
  rw [callSites, alive]

/-- Every caller is searched in the tree that the index has for its document. -/
theorem WellFormed.incomingCalls_eq
    (wellFormed : workspace.WellFormed) (anchor : Declaration) :
    workspace.incomingCalls anchor =
      workspace.index.allFunctions.filterMap fun caller =>
        (workspace.index.tree? caller.uri).bind fun tree =>
          call? caller (tree.callSites caller anchor.name) := by
  apply List.filterMap_congr
  intro caller indexed
  obtain ⟨tree, cached, _, alive⟩ := wellFormed.current indexed
  rw [cached, Option.bind_some, callSites_of_treeOf? alive]

theorem WellFormed.incomingEvents_eq
    (wellFormed : workspace.WellFormed) (anchor : Declaration) :
    workspace.incomingEvents anchor =
      [searched "incoming calls" anchor (workspace.incomingCalls anchor).length] := by
  have nothing : workspace.index.allFunctions.flatMap workspace.searchEvents = [] := by
    rw [List.flatMap_eq_nil_iff]
    intro caller indexed
    obtain ⟨tree, _, _, alive⟩ := wellFormed.current indexed
    simp [searchEvents, alive]
  rw [incomingEvents, nothing, List.nil_append]

theorem outgoingCalls_of_treeOf?
    (alive : workspace.treeOf? declaration = some tree) :
    workspace.outgoingCalls declaration =
      (descendingNames (workspace.index.allFunctions.map Declaration.name)).filterMap fun name =>
        (workspace.index.findByName? name).bind fun callee =>
          call? callee (tree.callSites declaration name) := by
  simp only [outgoingCalls, callSites_of_treeOf? alive]

theorem outgoingCalls_of_treeOf?_none
    (gone : workspace.treeOf? declaration = none) :
    workspace.outgoingCalls declaration = [] := by
  rw [List.eq_nil_iff_forall_not_mem]
  intro call recorded
  obtain ⟨_, someSite, sitesEq⟩ := mem_outgoingCalls.1 recorded
  rw [callSites, gone] at sitesEq
  exact someSite sitesEq.symm

end OneWorkspace

/-- The only tree that a step can bring to life has the next number. -/
theorem Step.live_or_next
    {earlier later : Workspace} (step : Step earlier later) :
    earlier.index.nextTree ≤ later.index.nextTree ∧
      ∀ tree ∈ later.liveTrees,
        tree ∈ earlier.liveTrees ∨ tree.id.number = earlier.index.nextTree := by
  cases step with
  | perform call =>
      cases ensured : call.ensured? with
      | none =>
          rw [SyntaxIndex.perform_of_ensured?_none _ ensured]
          exact ⟨Nat.le_refl _, fun tree live => Or.inl live⟩
      | some document =>
          rw [SyntaxIndex.perform_of_ensured?_some _ ensured]
          rcases earlier.index.ensureTree_cases document with ⟨_, _, _, found⟩ | ⟨_, parsed⟩
          · rw [found]
            exact ⟨Nat.le_refl _, fun tree live => Or.inl live⟩
          · rw [parsed]
            refine ⟨Nat.le_succ _, ?_⟩
            intro tree live
            rcases List.mem_append.1 live with inPut | isHeld
            · rcases SyntaxIndex.mem_of_mem_put inPut with rfl | indexed
              · exact Or.inr rfl
              · exact Or.inl (mem_liveTrees_of_indexed indexed)
            · exact Or.inl (List.mem_append_right _ isHeld)
  | hold holder held heldLive =>
      refine ⟨Nat.le_refl _, ?_⟩
      intro tree live
      rcases List.mem_append.1 live with indexed | isHeld
      · exact Or.inl (mem_liveTrees_of_indexed indexed)
      · obtain ⟨entry, member, rfl⟩ := List.mem_map.1 isHeld
        rcases List.mem_cons.1 member with rfl | kept
        · exact Or.inl heldLive
        · exact Or.inl (mem_liveTrees_of_held (List.mem_of_mem_filter kept))
  | release holder =>
      refine ⟨Nat.le_refl _, ?_⟩
      intro tree live
      rcases List.mem_append.1 live with indexed | isHeld
      · exact Or.inl (mem_liveTrees_of_indexed indexed)
      · obtain ⟨entry, member, rfl⟩ := List.mem_map.1 isHeld
        exact Or.inl (mem_liveTrees_of_held (List.mem_of_mem_filter member))

section Run

variable {keyword : Keyword} {earlier later : Workspace}

/-- What lives at the end of a run lived at its start or was numbered after it. -/
theorem live_or_numbered_later
    (steps : Relation.ReflTransGen Step earlier later) :
    earlier.index.nextTree ≤ later.index.nextTree ∧
      ∀ tree ∈ later.liveTrees,
        tree ∈ earlier.liveTrees ∨ earlier.index.nextTree ≤ tree.id.number := by
  induction steps with
  | refl => exact ⟨Nat.le_refl _, fun tree live => Or.inl live⟩
  | tail _ step inductionHypothesis =>
      obtain ⟨numbersBefore, liveBefore⟩ := inductionHypothesis
      obtain ⟨numbers, live⟩ := step.live_or_next
      refine ⟨numbersBefore.trans numbers, ?_⟩
      intro tree treeLive
      rcases live tree treeLive with already | next
      · exact liveBefore tree already
      · rw [next]
        exact Or.inr numbersBefore

variable (reachable : Reachable keyword earlier) (steps : Relation.ReflTransGen Step earlier later)
  {tree : SyntaxTree} (treeLive : tree ∈ earlier.liveTrees)
  {declaration : Declaration} (declared : declaration ∈ tree.declarations)

include reachable steps treeLive

/-- The number of a tree is not given out again. -/
theorem eq_of_id_eq_later
    {other : SyntaxTree} (otherLive : other ∈ later.liveTrees) (sameId : other.id = tree.id) :
    other = tree := by
  have numbered := reachable.wellFormed.numbered tree treeLive
  rcases (live_or_numbered_later steps).2 other otherLive with already | numberedLater
  · exact reachable.wellFormed.determined other already tree treeLive sameId
  · rw [sameId] at numberedLater
    omega

include declared

theorem treeOf?_of_dead
    (dead : tree ∉ later.liveTrees) :
    later.treeOf? declaration = none := by
  rw [treeOf?, List.find?_eq_none]
  intro other otherLive sameId
  rw [decide_eq_true_eq, reachable.wellFormed.tree_eq_id treeLive declared] at sameId
  rw [eq_of_id_eq_later reachable steps treeLive otherLive sameId] at otherLive
  exact dead otherLive

/-- A declaration whose tree was replaced is the same as none of the index. -/
theorem not_same_of_replaced
    (replaced : tree ∉ later.index.trees) {current : Declaration}
    (indexed : current ∈ later.index.allFunctions) :
    declaration.same current = false := by
  rw [Bool.eq_false_iff]
  intro same
  simp only [Declaration.same, Bool.and_eq_true, decide_eq_true_eq] at same
  obtain ⟨other, otherIndexed, currentDeclared⟩ := List.mem_flatMap.1 indexed
  have laterReachable : Reachable keyword later := Relation.ReflTransGen.trans reachable steps
  have otherLive := mem_liveTrees_of_indexed otherIndexed
  have sameId : other.id = tree.id := by
    rw [← laterReachable.wellFormed.tree_eq_id otherLive currentDeclared, ← same.2,
      reachable.wellFormed.tree_eq_id treeLive declared]
  rw [eq_of_id_eq_later reachable steps treeLive otherLive sameId] at otherIndexed
  exact replaced otherIndexed

end Run

end Workspace

/-- At every point of every run, whatever trees are held beside the index: the declarations that the
index gives out are those of the trees that it has for their documents, and no caller is passed over
for want of its tree. A declaration that was alive before and whose tree was replaced since is the
same as none of the index, and declarations of its name have its callers. If nobody holds its tree,
the tree is gone and it calls nothing; if somebody does, it goes on to search its own text. -/
theorem declarations_live_with_their_trees
    {keyword : Keyword} {earlier later : Workspace}
    (reachable : Workspace.Reachable keyword earlier)
    (steps : Relation.ReflTransGen Workspace.Step earlier later) :
    (∀ declaration ∈ later.index.allFunctions, later.Current declaration) ∧
      (∀ name declaration, later.index.findByName? name = some declaration →
        later.Current declaration) ∧
      (∀ document position declaration,
        (later.index.find document position).1 = some declaration →
          Workspace.Current { later with index := (later.index.find document position).2 }
            declaration) ∧
      (∀ anchor,
        later.incomingCalls anchor =
            (later.index.allFunctions.filterMap fun caller =>
              (later.index.tree? caller.uri).bind fun tree =>
                Workspace.call? caller (tree.callSites caller anchor.name)) ∧
          later.incomingEvents anchor =
            [Workspace.searched "incoming calls" anchor (later.incomingCalls anchor).length]) ∧
      ∀ tree ∈ earlier.liveTrees, ∀ declaration ∈ tree.declarations, tree ∉ later.index.trees →
        (∀ current ∈ later.index.allFunctions,
          declaration.same current = false ∧
            (declaration.name = current.name →
              later.incomingCalls declaration = later.incomingCalls current)) ∧
          (tree ∉ later.held.map Prod.snd →
            later.treeOf? declaration = none ∧ later.outgoingCalls declaration = []) ∧
          (tree ∈ later.held.map Prod.snd →
            later.treeOf? declaration = some tree ∧
              later.bodyText? declaration = some (tree.bodyText declaration) ∧
              later.outgoingCalls declaration =
                (descendingNames (later.index.allFunctions.map Declaration.name)).filterMap
                  fun name =>
                    (later.index.findByName? name).bind fun callee =>
                      Workspace.call? callee (tree.callSites declaration name)) := by
  have laterReachable : Workspace.Reachable keyword later :=
    Relation.ReflTransGen.trans reachable steps
  have wellFormed := laterReachable.wellFormed
  refine ⟨?_, ?_, ?_, ?_, ?_⟩
  · intro declaration indexed
    exact wellFormed.current indexed
  · intro name declaration found
    exact wellFormed.current (Workspace.mem_of_findByName? found)
  · intro document position declaration found
    have afterReachable : Workspace.Reachable keyword
        { later with index := later.index.perform (.find document position) } :=
      laterReachable.tail (Workspace.Step.perform later (.find document position))
    exact afterReachable.wellFormed.current (Workspace.mem_of_find found)
  · intro anchor
    exact ⟨wellFormed.incomingCalls_eq anchor, wellFormed.incomingEvents_eq anchor⟩
  · intro tree treeLive declaration declared replaced
    refine ⟨?_, ?_, ?_⟩
    · intro current indexed
      refine ⟨Workspace.not_same_of_replaced reachable steps treeLive declared replaced indexed, ?_⟩
      intro sameName
      rw [Workspace.incomingCalls, Workspace.incomingCalls, sameName]
    · intro heldByNobody
      have dead : tree ∉ later.liveTrees := by
        rw [Workspace.liveTrees, List.mem_append, not_or]
        exact ⟨replaced, heldByNobody⟩
      have gone := Workspace.treeOf?_of_dead reachable steps treeLive declared dead
      exact ⟨gone, Workspace.outgoingCalls_of_treeOf?_none gone⟩
    · intro isHeld
      have stillLive : tree ∈ later.liveTrees := List.mem_append_right _ isHeld
      have alive := wellFormed.treeOf?_eq stillLive declared
      exact ⟨alive, wellFormed.bodyText?_eq stillLive declared,
        Workspace.outgoingCalls_of_treeOf? alive⟩

/-- Two texts of one document: in the first `g` calls `h`, in the second it is called by `h`. -/
def firstText : Snapshot :=
  ⟨⟨['a'], Eq.refl true⟩, [], 1, "f g \x7b\n h\n\x7d\nf h \x7b\n\x7d".toList⟩

def secondText : Snapshot :=
  { firstText with version := 2, text := "f h \x7b\n g g\n\x7d\nf g \x7b\n\x7d".toList }

theorem replacedText_lives_with_its_holder :
    let keyword : Keyword := ⟨['f'], by decide⟩
    let start : Workspace := ⟨(SyntaxIndex.empty keyword).run [.ensureTree firstText], []⟩
    let tree := SyntaxTree.parse keyword ⟨0⟩ firstText
    let holding := start.hold ['x'] tree
    let replaced : Workspace :=
      { holding with index := holding.index.perform (.ensureTree secondText) }
    let released := replaced.release ['x']
    let declaration := Declaration.ofBlock keyword firstText.uri ⟨0⟩ ⟨['g'], 0, 2⟩
    let current := Declaration.ofBlock keyword firstText.uri ⟨1⟩ ⟨['g'], 3, 4⟩
    Workspace.Reachable keyword start ∧
      Relation.ReflTransGen Workspace.Step start replaced ∧
      Relation.ReflTransGen Workspace.Step start released ∧
      tree ∈ start.liveTrees ∧ declaration ∈ tree.declarations ∧ tree ∉ replaced.index.trees ∧
      replaced.treeOf? declaration = some tree ∧
      (replaced.outgoingCalls declaration).map (fun call => call.symbol.name) = [['h']] ∧
      released.treeOf? declaration = none ∧ released.outgoingCalls declaration = [] ∧
      current ∈ released.index.allFunctions ∧ released.Current current ∧
      declaration.same current = false ∧
      (released.incomingCalls current).length = 1 ∧
      released.incomingCalls declaration = released.incomingCalls current := by
  intro keyword start tree holding replaced released declaration current
  have reachable : Workspace.Reachable keyword start := Workspace.reachable_run keyword _
  have treeLive : tree ∈ start.liveTrees := by decide +kernel
  have declared : declaration ∈ tree.declarations := by decide +kernel
  have toReplaced : Relation.ReflTransGen Workspace.Step start replaced :=
    (Relation.ReflTransGen.single (Workspace.Step.hold start ['x'] tree treeLive)).tail
      (Workspace.Step.perform holding (.ensureTree secondText))
  have toReleased : Relation.ReflTransGen Workspace.Step start released :=
    toReplaced.tail (Workspace.Step.release replaced ['x'])
  have notIndexed : tree ∉ replaced.index.trees := by decide +kernel
  have isHeld : tree ∈ replaced.held.map Prod.snd := by decide +kernel
  have heldByNobody : tree ∉ released.held.map Prod.snd := by decide +kernel
  have indexed : current ∈ released.index.allFunctions := by decide +kernel
  obtain ⟨_, _, _, _, replacedOld⟩ := declarations_live_with_their_trees reachable toReplaced
  obtain ⟨allCurrent, _, _, _, releasedOld⟩ :=
    declarations_live_with_their_trees reachable toReleased
  obtain ⟨_, _, whileHeld⟩ := replacedOld tree treeLive declaration declared notIndexed
  obtain ⟨others, onceReleased, _⟩ := releasedOld tree treeLive declaration declared notIndexed
  obtain ⟨gone, noCalls⟩ := onceReleased heldByNobody
  obtain ⟨notSame, sameCallers⟩ := others current indexed
  exact ⟨reachable, toReplaced, toReleased, treeLive, declared, notIndexed, (whileHeld isHeld).1,
    by decide +kernel, gone, noCalls, indexed, allCurrent current indexed, notSame,
    by decide +kernel, sameCallers rfl⟩

end CallHierarchy
