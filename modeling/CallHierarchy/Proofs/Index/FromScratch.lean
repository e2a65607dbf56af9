import CallHierarchy.Proofs.FirstSeen
import CallHierarchy.Proofs.Index.Reachable

/-!
Indexing step by step and indexing from scratch. After any run, the index shows what a new index
shows that is given only the last text of each document: reuse by version and replacement in place
leave no trace. The one thing that differs is which number a tree has.
-/

namespace CallHierarchy

/-- What can be seen of a declaration: all but the number of its tree. -/
structure DeclarationContent where
  name : Text
  uri : Uri
  fullRange : Range
  nameRange : Range
  bodyRange : Range
  /-- The text of the body, read through the declaration's own tree. -/
  bodyText : Option Text
  deriving DecidableEq

/-- What can be seen of a tree: all but its number. -/
structure TreeContent where
  uri : Uri
  version : Int32
  text : Text
  declarations : List DeclarationContent
  deriving DecidableEq

namespace Workspace

def declarationContent (workspace : Workspace) (declaration : Declaration) :
    DeclarationContent :=
  { name := declaration.name
    uri := declaration.uri
    fullRange := declaration.fullRange
    nameRange := declaration.nameRange
    bodyRange := declaration.bodyRange
    bodyText := workspace.bodyText? declaration }

def treeContent (workspace : Workspace) (tree : SyntaxTree) : TreeContent :=
  { uri := tree.uri
    version := tree.version
    text := tree.document.text
    declarations := tree.declarations.map workspace.declarationContent }

end Workspace

def Snapshot.parsedContent (keyword : Keyword) (document : Snapshot) : TreeContent :=
  let tree := SyntaxTree.parse keyword ⟨0⟩ document
  { uri := document.uri
    version := document.version
    text := document.text
    declarations := tree.declarations.map fun declaration =>
      { name := declaration.name
        uri := declaration.uri
        fullRange := declaration.fullRange
        nameRange := declaration.nameRange
        bodyRange := declaration.bodyRange
        bodyText := some (tree.bodyText declaration) } }

/-- The language of a document and the number of its tree have no part in what a parse shows. -/
theorem Snapshot.parsedContent_congr
    (keyword : Keyword) {left right : Snapshot}
    (sameUri : left.uri = right.uri) (sameVersion : left.version = right.version)
    (sameText : left.text = right.text) :
    left.parsedContent keyword = right.parsedContent keyword := by
  obtain ⟨leftUri, leftLanguage, leftVersion, leftText⟩ := left
  obtain ⟨rightUri, rightLanguage, rightVersion, rightText⟩ := right
  dsimp only at sameUri sameVersion sameText
  subst sameUri sameVersion sameText
  rfl

/-- A living tree shows what every parse of its document shows. -/
theorem Workspace.WellFormed.treeContent_eq
    {workspace : Workspace} (wellFormed : workspace.WellFormed)
    {tree : SyntaxTree} (live : tree ∈ workspace.liveTrees) :
    workspace.treeContent tree =
      tree.document.parsedContent workspace.index.keyword := by
  have bodies : ∀ declaration ∈ tree.declarations,
      workspace.declarationContent declaration =
        { name := declaration.name
          uri := declaration.uri
          fullRange := declaration.fullRange
          nameRange := declaration.nameRange
          bodyRange := declaration.bodyRange
          bodyText := some (tree.bodyText declaration) } := by
    intro declaration declared
    rw [declarationContent, wellFormed.bodyText?_eq live declared]
  rw [treeContent, List.map_congr_left bodies, wellFormed.parsed tree live]
  simp only [Snapshot.parsedContent, SyntaxTree.parse, List.map_map]
  rfl

/-- Documents with the same URI and the same version have the same text. -/
def VersionContract (documents : List Snapshot) : Prop :=
  ∀ left ∈ documents, ∀ right ∈ documents,
    left.uri = right.uri → left.version = right.version → left.text = right.text

instance (documents : List Snapshot) : Decidable (VersionContract documents) :=
  inferInstanceAs (Decidable (∀ left ∈ documents, ∀ right ∈ documents,
    left.uri = right.uri → left.version = right.version → left.text = right.text))

theorem VersionContract.mono
    {documents others : List Snapshot} (contract : VersionContract documents)
    (subset : ∀ document ∈ others, document ∈ documents) :
    VersionContract others := by
  intro left leftMember right rightMember
  exact contract left (subset left leftMember) right (subset right rightMember)

def lastDocument? (documents : List Snapshot) (uri : Uri) : Option Snapshot :=
  documents.reverse.find? fun document => document.uri = uri

/-- The last document of each URI, in the order in which the URIs first appear. -/
def lastDocuments (documents : List Snapshot) : List Snapshot :=
  (documents.map Snapshot.uri).eraseDups.filterMap (lastDocument? documents)

theorem lastDocument?_concat
    (documents : List Snapshot) (document : Snapshot) (uri : Uri) :
    lastDocument? (documents ++ [document]) uri =
      if document.uri = uri then some document else lastDocument? documents uri := by
  rw [lastDocument?, List.reverse_append, List.reverse_singleton, List.singleton_append,
    List.find?_cons]
  by_cases sameUri : document.uri = uri
  · simp [sameUri]
  · simp [sameUri, lastDocument?]

theorem mem_of_lastDocument?
    {documents : List Snapshot} {uri : Uri} {document : Snapshot}
    (last : lastDocument? documents uri = some document) :
    document ∈ documents ∧ document.uri = uri := by
  refine ⟨List.mem_reverse.1 (List.mem_of_find?_eq_some last), ?_⟩
  simpa using List.find?_some last

theorem mem_of_mem_lastDocuments
    {documents : List Snapshot} {document : Snapshot}
    (member : document ∈ lastDocuments documents) :
    document ∈ documents := by
  obtain ⟨uri, _, last⟩ := List.mem_filterMap.1 member
  exact (mem_of_lastDocument? last).1

theorem exists_lastDocument?
    {documents : List Snapshot} {uri : Uri}
    (present : uri ∈ documents.map Snapshot.uri) :
    ∃ document, lastDocument? documents uri = some document ∧ document.uri = uri := by
  obtain ⟨candidate, candidateMember, candidateUri⟩ := List.mem_map.1 present
  cases last : lastDocument? documents uri with
  | none =>
      have absent :=
        List.find?_eq_none.1 last candidate (List.mem_reverse.2 candidateMember)
      simp [candidateUri] at absent
  | some document => exact ⟨document, rfl, (mem_of_lastDocument? last).2⟩

theorem map_uri_lastDocuments
    (documents : List Snapshot) :
    (lastDocuments documents).map Snapshot.uri =
      (documents.map Snapshot.uri).eraseDups := by
  have ownUri : ∀ uri ∈ (documents.map Snapshot.uri).eraseDups,
      (lastDocument? documents uri).map Snapshot.uri = some uri := by
    intro uri member
    obtain ⟨document, last, documentUri⟩ :=
      exists_lastDocument? (List.mem_eraseDups.1 member)
    rw [last, Option.map_some, documentUri]
  rw [lastDocuments, List.map_filterMap, List.filterMap_congr ownUri, List.filterMap_some]

/-- A list with one document for each URI consists of its last documents. -/
theorem lastDocuments_of_nodup
    {documents : List Snapshot} (distinct : (documents.map Snapshot.uri).Nodup) :
    lastDocuments documents = documents := by
  have onlyOne : ∀ document ∈ documents,
      lastDocument? documents document.uri = some document := by
    intro document member
    obtain ⟨other, last, sameUri⟩ :=
      exists_lastDocument? (List.mem_map_of_mem (f := Snapshot.uri) member)
    have otherMember : other ∈ documents := (mem_of_lastDocument? last).1
    rw [last, List.inj_on_of_nodup_map distinct otherMember member sameUri]
  rw [lastDocuments, eraseDups_of_nodup distinct, List.filterMap_map]
  exact (List.filterMap_congr onlyOne).trans List.filterMap_some

namespace SyntaxIndex

/-- The index shows the last of the documents seen so far, in the order of their first
appearance. -/
structure Reflects (index : SyntaxIndex) (documents : List Snapshot) : Prop where
  uris : index.trees.map SyntaxTree.uri = (documents.map Snapshot.uri).eraseDups
  latest : ∀ tree ∈ index.trees,
    (lastDocument? documents tree.uri).map (Snapshot.parsedContent index.keyword) =
      some (tree.document.parsedContent index.keyword)

/-- A tree found under the version of a document shows what a parse of the document shows. -/
theorem Reflects.parsedContent_of_hit
    {index : SyntaxIndex} {documents : List Snapshot} {document : Snapshot} {tree : SyntaxTree}
    (reflects : index.Reflects documents)
    (contract : VersionContract (documents ++ [document]))
    (found : index.tree? document.uri = some tree)
    (sameVersion : tree.version = document.version) :
    tree.document.parsedContent index.keyword = document.parsedContent index.keyword := by
  obtain ⟨member, treeUri⟩ := tree?_eq_some found
  obtain ⟨earlier, last, sameContent⟩ :=
    Option.map_eq_some_iff.1 (reflects.latest tree member)
  have sameText : earlier.text = tree.document.text := congrArg TreeContent.text sameContent
  have earlierVersion : earlier.version = tree.version :=
    congrArg TreeContent.version sameContent
  have earlierText : earlier.text = document.text := by
    apply contract earlier (List.mem_append_left _ (mem_of_lastDocument? last).1)
      document (List.mem_append_right _ (List.mem_singleton_self document))
    · exact (mem_of_lastDocument? last).2.trans treeUri
    · exact earlierVersion.trans sameVersion
  exact Snapshot.parsedContent_congr index.keyword treeUri sameVersion
    (sameText.symm.trans earlierText)

/-- One more document: a hit shows it already, and a miss puts its parse in its place. -/
theorem Reflects.ensureTree
    {index : SyntaxIndex} {documents : List Snapshot} {document : Snapshot}
    (reflects : index.Reflects documents)
    (distinct : (index.trees.map SyntaxTree.uri).Nodup)
    (contract : VersionContract (documents ++ [document])) :
    (index.ensureTree document).2.Reflects (documents ++ [document]) := by
  have otherLatest : ∀ tree ∈ index.trees, tree.uri ≠ document.uri →
      (lastDocument? (documents ++ [document]) tree.uri).map
          (Snapshot.parsedContent index.keyword) =
        some (tree.document.parsedContent index.keyword) := by
    intro tree member otherUri
    rw [lastDocument?_concat, if_neg (Ne.symm otherUri)]
    exact reflects.latest tree member
  have seenIff : document.uri ∈ index.trees.map SyntaxTree.uri ↔
      document.uri ∈ documents.map Snapshot.uri := by
    rw [reflects.uris, List.mem_eraseDups]
  rcases index.ensureTree_cases document with
    ⟨tree, found, sameVersion, ensured⟩ | ⟨_, ensured⟩
  · obtain ⟨treeMember, treeUri⟩ := tree?_eq_some found
    rw [ensured]
    constructor
    · have seen : document.uri ∈ documents.map Snapshot.uri :=
        seenIff.1 (List.mem_map.2 ⟨tree, treeMember, treeUri⟩)
      rw [List.map_append, List.map_singleton, eraseDups_concat, if_pos seen, reflects.uris]
    · intro member inTrees
      by_cases sameUri : member.uri = document.uri
      · have memberEq : member = tree :=
          eq_of_uri_eq distinct inTrees treeMember (sameUri.trans treeUri.symm)
        rw [lastDocument?_concat, if_pos sameUri.symm, memberEq,
          reflects.parsedContent_of_hit contract found sameVersion]
        rfl
      · exact otherLatest member inTrees sameUri
  · rw [ensured]
    constructor
    · rw [map_uri_put, List.map_append, List.map_singleton, eraseDups_concat, reflects.uris]
      simp only [List.mem_eraseDups]
      rfl
    · intro member inPut
      by_cases sameUri : member.uri = document.uri
      · have memberEq := eq_of_uri_eq (nodup_map_uri_put distinct) inPut
          (mem_put_self _ index.trees) sameUri
        rw [lastDocument?_concat, if_pos sameUri.symm, memberEq]
        rfl
      · rcases mem_of_mem_put inPut with rfl | inTrees
        · exact absurd rfl sameUri
        · exact otherLatest member inTrees sameUri

theorem run_map_ensureTree
    (index : SyntaxIndex) (documents : List Snapshot) :
    index.run (documents.map IndexCall.ensureTree) = index.ensureAll documents := by
  rw [run_eq_ensureAll, List.filterMap_map]
  exact congrArg index.ensureAll List.filterMap_some

theorem wellFormed_ensureAll
    (keyword : Keyword) (documents : List Snapshot) :
    Workspace.WellFormed ⟨(empty keyword).ensureAll documents, []⟩ := by
  rw [← run_map_ensureTree]
  exact (Workspace.reachable_run keyword _).wellFormed

theorem keyword_ensureAll
    (keyword : Keyword) (documents : List Snapshot) :
    ((empty keyword).ensureAll documents).keyword = keyword := by
  rw [← run_map_ensureTree]
  exact (Workspace.reachable_run keyword _).keyword_eq

/-- Under the version contract, an index shows the last of the documents that it has seen. -/
theorem reflects_ensureAll
    (keyword : Keyword) {documents : List Snapshot}
    (contract : VersionContract documents) :
    ((empty keyword).ensureAll documents).Reflects documents := by
  induction documents using List.reverseRecOn with
  | nil => exact ⟨rfl, by simp [ensureAll, empty]⟩
  | append_singleton earlier document inductionHypothesis =>
      have step : (empty keyword).ensureAll (earlier ++ [document]) =
          (((empty keyword).ensureAll earlier).ensureTree document).2 := by
        rw [ensureAll, List.foldl_concat]
        rfl
      rw [step]
      apply Reflects.ensureTree
      · exact inductionHypothesis
          (contract.mono fun _ member => List.mem_append_left _ member)
      · exact (wellFormed_ensureAll keyword earlier).distinctUris
      · exact contract

/-- A new index shows what parses of the last documents show. -/
theorem map_treeContent_ensureAll
    (keyword : Keyword) {documents : List Snapshot}
    (contract : VersionContract documents) :
    ((empty keyword).ensureAll documents).trees.map
        (Workspace.treeContent ⟨(empty keyword).ensureAll documents, []⟩) =
      (lastDocuments documents).map (Snapshot.parsedContent keyword) := by
  have reflects := reflects_ensureAll keyword contract
  have wellFormed := wellFormed_ensureAll keyword documents
  have shown : ∀ tree ∈ ((empty keyword).ensureAll documents).trees,
      Workspace.treeContent ⟨(empty keyword).ensureAll documents, []⟩ tree =
        tree.document.parsedContent keyword := by
    intro tree member
    rw [wellFormed.treeContent_eq (Workspace.mem_liveTrees_of_indexed member),
      keyword_ensureAll]
  have latest : ∀ tree ∈ ((empty keyword).ensureAll documents).trees,
      (lastDocument? documents tree.uri).map (Snapshot.parsedContent keyword) =
        some (tree.document.parsedContent keyword) := by
    have latestOwn := reflects.latest
    rwa [keyword_ensureAll] at latestOwn
  rw [List.map_congr_left shown, lastDocuments, List.map_filterMap, ← reflects.uris,
    List.filterMap_map]
  exact ((List.filterMap_congr latest).trans (congrFun List.filterMap_eq_map' _)).symm

/-- A name stands for the first declaration that has it, in the order of all declarations. -/
theorem findByName?_eq_find?
    (index : SyntaxIndex) (name : Text) :
    index.findByName? name =
      index.allFunctions.find? fun declaration => declaration.name = name :=
  List.find?_flatMap.symm

end SyntaxIndex

namespace Workspace

theorem map_treeContent_tree?
    (workspace : Workspace) (uri : Uri) :
    (workspace.index.tree? uri).map workspace.treeContent =
      (workspace.index.trees.map workspace.treeContent).find? fun content =>
        content.uri = uri := by
  rw [List.find?_map]
  rfl

theorem map_declarationContent_allFunctions
    (workspace : Workspace) :
    workspace.index.allFunctions.map workspace.declarationContent =
      (workspace.index.trees.map workspace.treeContent).flatMap TreeContent.declarations := by
  rw [SyntaxIndex.allFunctions, List.map_flatMap, List.flatMap_map]
  rfl

theorem map_declarationContent_findByName?
    (workspace : Workspace) (name : Text) :
    (workspace.index.findByName? name).map workspace.declarationContent =
      (workspace.index.allFunctions.map workspace.declarationContent).find? fun content =>
        content.name = name := by
  rw [SyntaxIndex.findByName?_eq_find?, List.find?_map]
  rfl

theorem WellFormed.isSome_bodyText?
    {workspace : Workspace} (wellFormed : workspace.WellFormed)
    {declaration : Declaration} (indexed : declaration ∈ workspace.index.allFunctions) :
    (workspace.bodyText? declaration).isSome = true := by
  obtain ⟨tree, member, declared⟩ := List.mem_flatMap.1 indexed
  rw [wellFormed.bodyText?_eq (mem_liveTrees_of_indexed member) declared]
  rfl

end Workspace

/-- After any run whose documents keep the version contract, the index shows, tree by tree and
declaration by declaration, what a new index shows that is given the last ensured document of each
URI in the order in which the URIs were first ensured. -/
theorem run_shows_last_documents
    (keyword : Keyword) (calls : List IndexCall)
    (contract : VersionContract (calls.filterMap IndexCall.ensured?)) :
    let documents := calls.filterMap IndexCall.ensured?
    let index := (SyntaxIndex.empty keyword).run calls
    let fresh := (SyntaxIndex.empty keyword).ensureAll (lastDocuments documents)
    let indexed : Workspace := ⟨index, []⟩
    let freshlyIndexed : Workspace := ⟨fresh, []⟩
    index.trees.map SyntaxTree.uri = (documents.map Snapshot.uri).eraseDups ∧
      (index.trees.map SyntaxTree.uri).Nodup ∧
      index.trees.map indexed.treeContent = fresh.trees.map freshlyIndexed.treeContent ∧
      (∀ uri, (index.tree? uri).map indexed.treeContent =
        (fresh.tree? uri).map freshlyIndexed.treeContent) ∧
      index.allFunctions.map indexed.declarationContent =
        fresh.allFunctions.map freshlyIndexed.declarationContent ∧
      (∀ declaration ∈ index.allFunctions, (indexed.bodyText? declaration).isSome) ∧
      (∀ name, (index.findByName? name).map indexed.declarationContent =
        (fresh.findByName? name).map freshlyIndexed.declarationContent) ∧
      ∀ name, index.findByName? name =
        index.allFunctions.find? fun declaration => declaration.name = name := by
  intro documents index fresh indexed freshlyIndexed
  have runEq : index = (SyntaxIndex.empty keyword).ensureAll documents :=
    SyntaxIndex.run_eq_ensureAll _ calls
  have wellFormed : indexed.WellFormed :=
    (Workspace.reachable_run keyword calls).wellFormed
  have uris : index.trees.map SyntaxTree.uri = (documents.map Snapshot.uri).eraseDups := by
    rw [runEq]
    exact (SyntaxIndex.reflects_ensureAll keyword contract).uris
  have lastDistinct : ((lastDocuments documents).map Snapshot.uri).Nodup := by
    rw [map_uri_lastDocuments, ← uris]
    exact wellFormed.distinctUris
  have lastContract : VersionContract (lastDocuments documents) :=
    contract.mono fun _ member => mem_of_mem_lastDocuments member
  have sameTrees :
      index.trees.map indexed.treeContent = fresh.trees.map freshlyIndexed.treeContent := by
    have runTrees : index.trees.map indexed.treeContent =
        (lastDocuments documents).map (Snapshot.parsedContent keyword) := by
      simp only [indexed, runEq]
      exact SyntaxIndex.map_treeContent_ensureAll keyword contract
    have freshTrees := SyntaxIndex.map_treeContent_ensureAll keyword lastContract
    rw [lastDocuments_of_nodup lastDistinct] at freshTrees
    exact runTrees.trans freshTrees.symm
  have sameFunctions : index.allFunctions.map indexed.declarationContent =
      fresh.allFunctions.map freshlyIndexed.declarationContent := by
    rw [indexed.map_declarationContent_allFunctions,
      freshlyIndexed.map_declarationContent_allFunctions, sameTrees]
  refine ⟨uris, wellFormed.distinctUris, sameTrees, ?_, sameFunctions, ?_, ?_, ?_⟩
  · intro uri
    rw [indexed.map_treeContent_tree?, freshlyIndexed.map_treeContent_tree?, sameTrees]
  · intro declaration member
    exact wellFormed.isSome_bodyText? member
  · intro name
    rw [indexed.map_declarationContent_findByName?,
      freshlyIndexed.map_declarationContent_findByName?, sameFunctions]
  · intro name
    exact index.findByName?_eq_find? name

/-- Two documents of which the first goes to a later version and back again, with a search in
between that finds a word and one that finds none. -/
def backAndForth : List IndexCall :=
  let first : Uri := ⟨['a'], Eq.refl true⟩
  let second : Uri := ⟨['b'], Eq.refl true⟩
  let old : Text := "f g \x7b\n\x7d".toList
  let new : Text := "f h \x7b\n g\n\x7d".toList
  [.ensureTree ⟨first, [], 1, old⟩, .find ⟨second, [], 7, old⟩ ⟨0, 2⟩,
    .ensureTree ⟨first, [], 2, new⟩, .find ⟨second, [], 8, new⟩ ⟨9, 0⟩,
    .ensureTree ⟨first, ['c'], 1, old⟩]

theorem backAndForth_shows_last_documents :
    let keyword : Keyword := ⟨['f'], by decide⟩
    let documents := backAndForth.filterMap IndexCall.ensured?
    let index := (SyntaxIndex.empty keyword).run backAndForth
    let fresh := (SyntaxIndex.empty keyword).ensureAll (lastDocuments documents)
    VersionContract documents ∧ documents.length = 4 ∧ index.size = 2 ∧
      index.allFunctions.map (Workspace.declarationContent ⟨index, []⟩) =
        fresh.allFunctions.map (Workspace.declarationContent ⟨fresh, []⟩) := by
  intro keyword documents index fresh
  have contract : VersionContract documents := by decide +kernel
  exact ⟨contract, by decide +kernel, by decide +kernel,
    (run_shows_last_documents keyword backAndForth contract).2.2.2.2.1⟩

end CallHierarchy
