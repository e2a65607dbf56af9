import CallHierarchy.Proofs.Index.FromScratch

/-!
Chains of edits. An index knows a snapshot by its version, and an edit raises the version until the
greatest one is reached. So the last edit of a chain is shown whenever it raised the version; an
edit at the greatest version leaves the tree of the text before it in place.
-/

namespace CallHierarchy

namespace Snapshot

/-- The snapshot and those that follow it when its text is replaced again and again. -/
def edits (snapshot : Snapshot) : List Text → List Snapshot
  | [] => [snapshot]
  | text :: rest => snapshot :: (snapshot.edit text).edits rest

def editAll (snapshot : Snapshot) (texts : List Text) : Snapshot :=
  texts.foldl edit snapshot

theorem edits_concat
    (snapshot : Snapshot) (texts : List Text) (text : Text) :
    snapshot.edits (texts ++ [text]) =
      snapshot.edits texts ++ [(snapshot.editAll texts).edit text] := by
  induction texts generalizing snapshot with
  | nil => rfl
  | cons first rest inductionHypothesis =>
      rw [List.cons_append, edits, inductionHypothesis]
      rfl

theorem exists_edits_eq_concat
    (snapshot : Snapshot) (texts : List Text) :
    ∃ earlier, snapshot.edits texts = earlier ++ [snapshot.editAll texts] := by
  induction texts using List.reverseRecOn with
  | nil => exact ⟨[], rfl⟩
  | append_singleton earlier text _ =>
      refine ⟨snapshot.edits earlier, ?_⟩
      rw [edits_concat, editAll, editAll, List.foldl_concat]

theorem uri_editAll
    (snapshot : Snapshot) (texts : List Text) :
    (snapshot.editAll texts).uri = snapshot.uri := by
  induction texts generalizing snapshot with
  | nil => rfl
  | cons text rest inductionHypothesis => exact inductionHypothesis (snapshot.edit text)

/-- The next version is one more, up to the greatest one. -/
theorem toInt_nextVersion
    (version : Int32) :
    (nextVersion version).toInt = min (version.toInt + 1) Int32.maxValue.toInt := by
  have limit : Int32.maxValue.toInt = 2147483647 := rfl
  have lower := Int32.le_toInt version
  have upper := Int32.toInt_lt version
  rw [nextVersion, limit]
  split
  · rename_i greatest
    rw [greatest, limit]
    omega
  · rename_i smaller
    have notLimit : version.toInt ≠ 2147483647 := fun same => smaller (Int32.toInt_inj.1 same)
    have oneMore : (1 : Int32).toInt = 1 := rfl
    rw [Int32.toInt_add, oneMore, Int.bmod_eq_of_le]
    all_goals omega

/-- Every edit counts one version further, up to the greatest one. -/
theorem toInt_version_editAll
    (snapshot : Snapshot) (texts : List Text) :
    (snapshot.editAll texts).version.toInt =
      min (snapshot.version.toInt + texts.length) Int32.maxValue.toInt := by
  have bound : snapshot.version.toInt ≤ Int32.maxValue.toInt :=
    Int32.toInt_le snapshot.version
  induction texts generalizing snapshot with
  | nil =>
      rw [List.length_nil, editAll, List.foldl_nil]
      omega
  | cons text rest inductionHypothesis =>
      have edited : (snapshot.edit text).version.toInt =
          min (snapshot.version.toInt + 1) Int32.maxValue.toInt :=
        toInt_nextVersion snapshot.version
      have step : snapshot.editAll (text :: rest) = (snapshot.edit text).editAll rest := rfl
      rw [step, inductionHypothesis (snapshot.edit text) (by omega), edited, List.length_cons]
      omega

/-- After a chain of edits, one more changes the version unless the greatest one was reached. -/
theorem version_edit_editAll_iff
    (snapshot : Snapshot) (texts : List Text) (text : Text) :
    ((snapshot.editAll texts).edit text).version = (snapshot.editAll texts).version ↔
      Int32.maxValue.toInt ≤ snapshot.version.toInt + texts.length := by
  have reached := snapshot.toInt_version_editAll texts
  have edited : ((snapshot.editAll texts).edit text).version.toInt =
      min ((snapshot.editAll texts).version.toInt + 1) Int32.maxValue.toInt :=
    toInt_nextVersion (snapshot.editAll texts).version
  rw [← Int32.toInt_inj, edited]
  omega

/-- What a parse declares depends on nothing but the document's URI and its text. -/
theorem declarations_parsedContent_congr
    (keyword : Keyword) {left right : Snapshot}
    (sameUri : left.uri = right.uri) (sameText : left.text = right.text) :
    (left.parsedContent keyword).declarations = (right.parsedContent keyword).declarations := by
  obtain ⟨leftUri, leftLanguage, leftVersion, leftText⟩ := left
  obtain ⟨rightUri, rightLanguage, rightVersion, rightText⟩ := right
  dsimp only at sameUri sameText
  subst sameUri sameText
  rfl

end Snapshot

namespace SyntaxIndex

def ensuredTrees (index : SyntaxIndex) : List Snapshot → List SyntaxTree
  | [] => []
  | document :: rest =>
      (index.ensureTree document).1 :: (index.ensureTree document).2.ensuredTrees rest

theorem ensuredTrees_concat
    (index : SyntaxIndex) (documents : List Snapshot) (document : Snapshot) :
    index.ensuredTrees (documents ++ [document]) =
      index.ensuredTrees documents ++ [((index.ensureAll documents).ensureTree document).1] := by
  induction documents generalizing index with
  | nil => rfl
  | cons first rest inductionHypothesis =>
      rw [List.cons_append, ensuredTrees, inductionHypothesis]
      rfl

theorem ensureAll_concat
    (index : SyntaxIndex) (documents : List Snapshot) (document : Snapshot) :
    index.ensureAll (documents ++ [document]) =
      ((index.ensureAll documents).ensureTree document).2 := by
  rw [ensureAll, ensureAll, List.foldl_concat]

theorem find?_put
    (tree : SyntaxTree) (trees : List SyntaxTree) :
    ((put tree trees).find? fun other => other.uri = tree.uri) = some tree := by
  induction trees with
  | nil => simp [put]
  | cons first rest inductionHypothesis =>
      by_cases sameUri : first.uri = tree.uri
      · simp [put, sameUri]
      · simpa [put, sameUri] using inductionHypothesis

/-- The tree of a document that was brought up to date is the one that was given for it, and it is
of the document's version. -/
theorem tree?_ensureTree
    (index : SyntaxIndex) (document : Snapshot) :
    (index.ensureTree document).2.tree? document.uri = some (index.ensureTree document).1 ∧
      (index.ensureTree document).1.version = document.version := by
  rcases index.ensureTree_cases document with
    ⟨tree, found, sameVersion, ensured⟩ | ⟨_, ensured⟩
  · rw [ensured]
    exact ⟨found, sameVersion⟩
  · rw [ensured]
    exact ⟨find?_put (SyntaxTree.parse index.keyword ⟨index.nextTree⟩ document) index.trees, rfl⟩

/-- After a document, another version of it is parsed. -/
theorem ensureTree_of_other_version
    (index : SyntaxIndex) {document next : Snapshot}
    (sameUri : next.uri = document.uri) (otherVersion : next.version ≠ document.version) :
    ((index.ensureTree document).2.ensureTree next).1.document = next := by
  obtain ⟨cached, cachedVersion⟩ := index.tree?_ensureTree document
  rcases (index.ensureTree document).2.ensureTree_cases next with
    ⟨tree, found, sameVersion, _⟩ | ⟨_, parsed⟩
  · rw [sameUri, cached] at found
    obtain rfl := Option.some.inj found
    exact absurd (sameVersion.symm.trans cachedVersion) otherVersion
  · rw [parsed]
    rfl

/-- After a document, what has its version gets its tree. -/
theorem ensureTree_of_same_version
    (index : SyntaxIndex) {document next : Snapshot}
    (sameUri : next.uri = document.uri) (sameVersion : next.version = document.version) :
    (index.ensureTree document).2.ensureTree next = index.ensureTree document := by
  obtain ⟨cached, cachedVersion⟩ := index.tree?_ensureTree document
  rcases (index.ensureTree document).2.ensureTree_cases next with
    ⟨tree, found, _, hit⟩ | ⟨missed, _⟩
  · rw [sameUri, cached] at found
    obtain rfl := Option.some.inj found
    exact hit
  · rw [sameUri] at missed
    exact absurd (cachedVersion.trans sameVersion.symm) (missed _ cached)

end SyntaxIndex

theorem Workspace.Reachable.ensureAll
    {keyword : Keyword} {workspace : Workspace}
    (reachable : Workspace.Reachable keyword workspace) (documents : List Snapshot) :
    Workspace.Reachable keyword
      { workspace with index := workspace.index.ensureAll documents } := by
  induction documents using List.reverseRecOn with
  | nil => exact reachable
  | append_singleton earlier document inductionHypothesis =>
      rw [SyntaxIndex.ensureAll_concat]
      exact inductionHypothesis.tail (Workspace.Step.perform _ (.ensureTree document))

/-- Let every snapshot of a chain of edits be brought up to date in any reachable workspace. If the
versions up to the last edit stay below the greatest one, then the last tree, which is also the one
found under the URI, declares what a fresh parse of the last text declares. If they do not, it is
still the tree of the snapshot before the last edit. -/
theorem last_edit_shown_below_greatest_version
    {keyword : Keyword} {workspace : Workspace}
    (reachable : Workspace.Reachable keyword workspace)
    (snapshot : Snapshot) (texts : List Text) (text : Text) :
    let chain := snapshot.edits (texts ++ [text])
    let trees := workspace.index.ensuredTrees chain
    let after : Workspace := { workspace with index := workspace.index.ensureAll chain }
    ∃ tree,
      trees.getLast? = some tree ∧ after.index.tree? snapshot.uri = some tree ∧
        (snapshot.version.toInt + texts.length < Int32.maxValue.toInt →
          ∀ fresh : Snapshot, fresh.uri = snapshot.uri → fresh.text = text →
            (after.treeContent tree).declarations =
              (fresh.parsedContent keyword).declarations) ∧
        (Int32.maxValue.toInt ≤ snapshot.version.toInt + texts.length →
          trees.dropLast.getLast? = some tree) := by
  intro chain trees after
  obtain ⟨earlier, earlierEq⟩ := snapshot.exists_edits_eq_concat texts
  let before := snapshot.editAll texts
  let last := before.edit text
  let index := workspace.index.ensureAll earlier
  have uriBefore : before.uri = snapshot.uri := snapshot.uri_editAll texts
  have chainEq : chain = earlier ++ [before] ++ [last] := by
    simp only [chain]
    rw [Snapshot.edits_concat, earlierEq]
  have afterIndex : after.index = ((index.ensureTree before).2.ensureTree last).2 := by
    simp only [after]
    rw [chainEq, SyntaxIndex.ensureAll_concat, SyntaxIndex.ensureAll_concat]
  have treesEq : trees = workspace.index.ensuredTrees earlier ++ [(index.ensureTree before).1] ++
      [((index.ensureTree before).2.ensureTree last).1] := by
    simp only [trees]
    rw [chainEq, SyntaxIndex.ensuredTrees_concat, SyntaxIndex.ensuredTrees_concat,
      SyntaxIndex.ensureAll_concat]
  have found : after.index.tree? snapshot.uri =
      some ((index.ensureTree before).2.ensureTree last).1 := by
    rw [afterIndex, ← uriBefore]
    exact ((index.ensureTree before).2.tree?_ensureTree last).1
  have sameVersionIff := snapshot.version_edit_editAll_iff texts text
  refine ⟨((index.ensureTree before).2.ensureTree last).1, ?_, found, ?_, ?_⟩
  · rw [treesEq, List.getLast?_concat]
  · intro below fresh freshUri freshText
    have raised : last.version ≠ before.version := mt sameVersionIff.1 (Int.not_le.2 below)
    have parsed : ((index.ensureTree before).2.ensureTree last).1.document = last :=
      index.ensureTree_of_other_version rfl raised
    have afterReachable : Workspace.Reachable keyword after := reachable.ensureAll chain
    have live := Workspace.mem_liveTrees_of_indexed (SyntaxIndex.tree?_eq_some found).1
    rw [afterReachable.wellFormed.treeContent_eq live, afterReachable.keyword_eq, parsed]
    apply Snapshot.declarations_parsedContent_congr
    · exact uriBefore.trans freshUri.symm
    · exact freshText.symm
  · intro reached
    have hit : (index.ensureTree before).2.ensureTree last = index.ensureTree before :=
      index.ensureTree_of_same_version rfl (sameVersionIff.2 reached)
    rw [treesEq, List.dropLast_concat, List.getLast?_concat, hit]

def editedUri : Uri := ⟨['a'], Eq.refl true⟩

def editedKeyword : Keyword := ⟨['f'], Eq.refl true⟩

def declaring (name : Char) : Text :=
  ['f', ' ', name, ' ', '\x7b', '\n', '\x7d']

/-- A workspace that has seen another text under the version with which the edits begin. -/
def seenBefore : Workspace :=
  ⟨(SyntaxIndex.empty editedKeyword).run
    [.ensureTree ⟨editedUri, [], 2147483645, declaring 'o'⟩], []⟩

theorem seenBefore_last_edit_shown :
    let snapshot : Snapshot := ⟨editedUri, [], 2147483645, declaring 'g'⟩
    let chain := snapshot.edits ([declaring 'h'] ++ [declaring 'k'])
    let after : Workspace := { seenBefore with index := seenBefore.index.ensureAll chain }
    let fresh : Snapshot := ⟨editedUri, [], 0, declaring 'k'⟩
    Workspace.Reachable editedKeyword seenBefore ∧
      snapshot.version.toInt + [declaring 'h'].length < Int32.maxValue.toInt ∧
      (fresh.parsedContent editedKeyword).declarations.map DeclarationContent.name = [['k']] ∧
      ∃ tree,
        (seenBefore.index.ensuredTrees chain).getLast? = some tree ∧
          after.index.tree? editedUri = some tree ∧
          (after.treeContent tree).declarations =
            (fresh.parsedContent editedKeyword).declarations := by
  intro snapshot chain after fresh
  have reachable : Workspace.Reachable editedKeyword seenBefore :=
    Workspace.reachable_run editedKeyword _
  have below : snapshot.version.toInt + [declaring 'h'].length < Int32.maxValue.toInt := by decide
  obtain ⟨tree, isLast, cached, shown, -⟩ :=
    last_edit_shown_below_greatest_version reachable snapshot [declaring 'h'] (declaring 'k')
  exact ⟨reachable, below, by decide +kernel, tree, isLast, cached, shown below fresh rfl rfl⟩

/-- At the greatest version an edit from one function to another is not noticed: the index goes on
to show the first function. -/
theorem greatest_version_hides_edit :
    let snapshot : Snapshot := ⟨editedUri, [], 2147483647, declaring 'g'⟩
    let chain := snapshot.edits [declaring 'h']
    let workspace : Workspace := .empty editedKeyword
    let shownNames (tree : SyntaxTree) := tree.declarations.map Declaration.name
    Workspace.Reachable editedKeyword workspace ∧
      (workspace.index.ensuredTrees chain).getLast?.map shownNames = some [['g']] ∧
      ((workspace.index.ensureAll chain).tree? editedUri).map shownNames = some [['g']] ∧
      shownNames (SyntaxTree.parse editedKeyword ⟨0⟩ ⟨editedUri, [], 0, declaring 'h'⟩) =
        [['h']] := by
  intro snapshot chain workspace shownNames
  exact ⟨Relation.ReflTransGen.refl, by decide +kernel, by decide +kernel, by decide +kernel⟩

end CallHierarchy
