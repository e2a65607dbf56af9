import CallHierarchy.Proofs.Document.LineEndings
import CallHierarchy.Proofs.Engine.GreedySites
import CallHierarchy.Proofs.Index.FromScratch

/-!
Calls in documents with other line endings. A document whose line feeds get carriage returns before
them declares the same functions, and their bodies hold the same names at the same positions; so in
an index with such a document in place of the plain one, every declaration has the calls that it had.
-/

namespace CallHierarchy

theorem LinesCut.withReturns
    {text : Text} {low high : Nat} {head body tail : Text}
    (cut : LinesCut text low high head body tail) :
    LinesCut (Text.withReturns text) low high (Text.withReturns head) (Text.withReturns body)
      (Text.withReturns tail) where
  textEq := by rw [cut.textEq, Text.withReturns_append, Text.withReturns_append]
  headStart := Text.lastLine_withReturns_of_nil cut.headStart
  bodyStart := by
    rw [← Text.withReturns_append]
    exact Text.lastLine_withReturns_of_nil cut.bodyStart
  headCount := by rw [Text.count_withReturns, cut.headCount]
  bodyCount := by rw [← Text.withReturns_append, Text.count_withReturns, cut.bodyCount]

theorem IsName.return_not_mem {name : Text} (named : IsName name) : '\r' ∉ name := by
  intro member
  have isCharacter := named.characters '\r' member
  simp [isNameCharacter] at isCharacter

namespace SyntaxTree

/-- The sites of a name depend on the document's URI and text and on the range of the body. -/
theorem callSites_congr
    {left right : SyntaxTree} (sameUri : left.uri = right.uri)
    (sameText : left.document.text = right.document.text)
    {declaration other : Declaration} (sameBody : declaration.bodyRange = other.bodyRange)
    (name : Text) :
    left.callSites declaration name = right.callSites other name := by
  simp only [callSites, bodyText, Snapshot.textIn, Snapshot.offsetAt, Snapshot.positionAt,
    Snapshot.lineIndex, sameUri, sameText, sameBody]

/-- A name stands at the same positions of a body with carriage returns as without them. -/
theorem callSites_withReturns
    {keyword : Keyword} {id : TreeId} {document : Snapshot} {declaration : Declaration}
    (fits : Text.FitsPositions document.withReturns.text)
    (declared : declaration ∈ (parse keyword id document).declarations)
    {name : Text} (named : IsName name) :
    (parse keyword id document.withReturns).callSites declaration name =
      (parse keyword id document).callSites declaration name := by
  obtain ⟨head, body, tail, cut, bodyRangeEq⟩ :=
    exists_linesCut_body fits.of_withReturns declared
  have returned : LinesCut document.withReturns.text _ _ _ _ _ := cut.withReturns
  rw [returned.callSites_eq bodyRangeEq, cut.callSites_eq bodyRangeEq]
  refine (Text.map_occurrencesFrom_withReturns (not_mem_of_isName named) named.return_not_mem
    named.nonempty _ _ body 0 0 0 (by simp) ?_).symm
  intro before behind bodyEq
  have returnedEq : Text.withReturns body =
      Text.withReturns before ++ (name ++ Text.withReturns behind) := by
    rw [bodyEq, Text.withReturns_append, Text.withReturns_append,
      Text.withReturns_of_not_mem (not_mem_of_isName named)]
  have startEq : Text.endPosition (Text.withReturns head ++ Text.withReturns before) =
      Text.endPosition (head ++ before) := by
    rw [← Text.withReturns_append, Text.endPosition_withReturns]
  have finishEq : Text.endPosition (Text.withReturns head ++ Text.withReturns before ++ name) =
      Text.endPosition (head ++ before ++ name) := by
    rw [← Text.endPosition_withReturns (head ++ before ++ name), Text.withReturns_append,
      Text.withReturns_append, Text.withReturns_of_not_mem (not_mem_of_isName named)]
  simp only [Nat.zero_add]
  rw [cut.positionAt_start bodyEq, cut.positionAt_finish bodyEq,
    returned.positionAt_start returnedEq, returned.positionAt_finish returnedEq, startEq, finishEq]
  rfl

end SyntaxTree

/-- Two documents of one URI hold the same text, or the second holds the text of the first with a
carriage return before every line feed. -/
structure Snapshot.SameButReturns (plain returned : Snapshot) : Prop where
  uri : plain.uri = returned.uri
  text : plain.text = returned.text ∨
    '\r' ∉ plain.text ∧ Text.FitsPositions returned.text ∧
      returned.text = plain.withReturns.text

namespace Snapshot.SameButReturns

variable {plain returned : Snapshot} (same : plain.SameButReturns returned)
  {keyword : Keyword}
include same

theorem lineTexts_eq : plain.lineTexts = returned.lineTexts := by
  rcases same.text with sameText | ⟨noReturn, _, returnedText⟩
  · exact lineTexts_congr sameText
  · rw [← lineTexts_withReturns noReturn]
    exact lineTexts_congr returnedText.symm

theorem map_withoutTree_eq (plainId returnedId : TreeId) :
    (SyntaxTree.parse keyword plainId plain).declarations.map Declaration.withoutTree =
      (SyntaxTree.parse keyword returnedId returned).declarations.map
        Declaration.withoutTree := by
  rw [SyntaxTree.map_withoutTree_parse, SyntaxTree.map_withoutTree_parse]
  exact SyntaxTree.declarations_parse_congr keyword ⟨0⟩ same.uri same.lineTexts_eq

/-- In documents that differ in carriage returns at most, a body has the same sites. -/
theorem callSites_eq
    {plainId returnedId : TreeId} {declaration other : Declaration}
    (declared : declaration ∈ (SyntaxTree.parse keyword plainId plain).declarations)
    (sameBody : declaration.bodyRange = other.bodyRange) {name : Text} (named : IsName name) :
    (SyntaxTree.parse keyword plainId plain).callSites declaration name =
      (SyntaxTree.parse keyword returnedId returned).callSites other name := by
  rcases same.text with sameText | ⟨_, fits, returnedText⟩
  · apply SyntaxTree.callSites_congr _ _ sameBody
    · exact same.uri
    · exact sameText
  · rw [returnedText] at fits
    rw [← SyntaxTree.callSites_withReturns fits declared named]
    apply SyntaxTree.callSites_congr _ _ sameBody
    · exact same.uri
    · exact returnedText.symm

end Snapshot.SameButReturns

def Call.withoutTree (call : Call Declaration) : Call Declaration :=
  ⟨call.symbol.withoutTree, call.sites⟩

namespace Workspace

theorem map_call?
    {Item Image : Type} (image : Item → Image) (symbol : Item) (sites : List Location) :
    ((call? symbol sites).map fun call => ⟨image call.symbol, call.sites⟩) =
      call? (image symbol) sites := by
  by_cases empty : sites.isEmpty = true
  · simp [call?, empty]
  · simp [call?, empty]

theorem map_withoutTree_call?
    (symbol : Declaration) (sites : List Location) :
    (call? symbol sites).map Call.withoutTree = call? symbol.withoutTree sites :=
  map_call? Declaration.withoutTree symbol sites

theorem map_withoutTree_incomingCalls
    (workspace : Workspace) (anchor : Declaration) :
    (workspace.incomingCalls anchor).map Call.withoutTree =
      (workspace.index.allFunctions.map fun caller =>
        (caller.withoutTree, workspace.callSites caller anchor.name)).filterMap fun found =>
          call? found.1 found.2 := by
  rw [incomingCalls, List.map_filterMap, List.filterMap_map]
  simp only [map_withoutTree_call?]
  rfl

theorem map_withoutTree_outgoingCalls
    (workspace : Workspace) (anchor : Declaration) :
    (workspace.outgoingCalls anchor).map Call.withoutTree =
      (descendingNames (workspace.index.allFunctions.map Declaration.name)).filterMap fun name =>
        ((workspace.index.findByName? name).map Declaration.withoutTree).bind fun callee =>
          call? callee (workspace.callSites anchor name) := by
  rw [outgoingCalls, List.map_filterMap]
  apply List.filterMap_congr
  intro name _
  rw [Option.map_bind, Option.bind_map]
  apply congrArg
  funext callee
  exact map_withoutTree_call? callee _

theorem map_withoutTree_findByName?
    (workspace : Workspace) (name : Text) :
    (workspace.index.findByName? name).map Declaration.withoutTree =
      (workspace.index.allFunctions.map Declaration.withoutTree).find? fun declaration =>
        declaration.name = name := by
  rw [SyntaxIndex.findByName?_eq_find?, List.find?_map]
  rfl

/-- A declaration of an index is known by all but its tree. -/
theorem WellFormed.eq_of_withoutTree_eq
    {workspace : Workspace} (wellFormed : workspace.WellFormed) {left right : Declaration}
    (leftMember : left ∈ workspace.index.allFunctions)
    (rightMember : right ∈ workspace.index.allFunctions)
    (same : left.withoutTree = right.withoutTree) :
    left = right := by
  obtain ⟨leftTree, leftIndexed, leftDeclared⟩ := List.mem_flatMap.1 leftMember
  obtain ⟨rightTree, rightIndexed, rightDeclared⟩ := List.mem_flatMap.1 rightMember
  have leftLive := mem_liveTrees_of_indexed leftIndexed
  have rightLive := mem_liveTrees_of_indexed rightIndexed
  have sameUri := congrArg Declaration.uri same
  have sameRange := congrArg Declaration.fullRange same
  have sameTree : leftTree = rightTree := by
    apply SyntaxIndex.eq_of_uri_eq wellFormed.distinctUris leftIndexed rightIndexed
    rw [← wellFormed.uri_of_declared leftLive leftDeclared,
      ← wellFormed.uri_of_declared rightLive rightDeclared]
    exact sameUri
  rw [sameTree, wellFormed.parsed rightTree rightLive] at leftDeclared
  rw [wellFormed.parsed rightTree rightLive] at rightDeclared
  exact SyntaxTree.eq_of_fullRange_eq leftDeclared rightDeclared sameRange

/-- Two workspaces whose indexes hold, in the same order, documents that differ in carriage returns
at most. -/
def SameButReturns (plain returned : Workspace) : Prop :=
  List.Forall₂ (fun left right => Snapshot.SameButReturns left.document right.document)
    plain.index.trees returned.index.trees

section Indexes

variable {keyword : Keyword} {plain returned : Workspace}
  (plainReachable : Reachable keyword plain) (returnedReachable : Reachable keyword returned)
  (same : plain.SameButReturns returned)
include plainReachable returnedReachable same

/-- What parses of such documents show alike, all trees of such indexes show alike. -/
theorem flatMap_trees_eq
    {α : Type} (view : SyntaxTree → List α)
    (alike : ∀ left right leftId rightId, Snapshot.SameButReturns left right →
      view (SyntaxTree.parse keyword leftId left) =
        view (SyntaxTree.parse keyword rightId right)) :
    plain.index.trees.flatMap view = returned.index.trees.flatMap view := by
  have plainParsed : ∀ tree ∈ plain.index.trees,
      tree = SyntaxTree.parse keyword tree.id tree.document := by
    intro tree member
    rw [← plainReachable.keyword_eq]
    exact plainReachable.wellFormed.parsed tree (mem_liveTrees_of_indexed member)
  have returnedParsed : ∀ tree ∈ returned.index.trees,
      tree = SyntaxTree.parse keyword tree.id tree.document := by
    intro tree member
    rw [← returnedReachable.keyword_eq]
    exact returnedReachable.wellFormed.parsed tree (mem_liveTrees_of_indexed member)
  unfold SameButReturns at same
  generalize plain.index.trees = lefts at same plainParsed ⊢
  generalize returned.index.trees = rights at same returnedParsed ⊢
  induction same with
  | nil => rfl
  | cons sameFirst _ inductionHypothesis =>
      rw [List.forall_mem_cons] at plainParsed returnedParsed
      rw [List.flatMap_cons, List.flatMap_cons, plainParsed.1, returnedParsed.1,
        alike _ _ _ _ sameFirst, inductionHypothesis plainParsed.2 returnedParsed.2]

theorem map_withoutTree_allFunctions_eq :
    plain.index.allFunctions.map Declaration.withoutTree =
      returned.index.allFunctions.map Declaration.withoutTree := by
  rw [SyntaxIndex.allFunctions, SyntaxIndex.allFunctions, List.map_flatMap, List.map_flatMap]
  apply flatMap_trees_eq plainReachable returnedReachable same
  intro left right leftId rightId sameDocument
  exact sameDocument.map_withoutTree_eq leftId rightId

/-- Declaration by declaration, the bodies hold a name at the same sites. -/
theorem map_callSites_allFunctions_eq
    {name : Text} (named : IsName name) :
    (plain.index.allFunctions.map fun caller =>
        (caller.withoutTree, plain.callSites caller name)) =
      returned.index.allFunctions.map fun caller =>
        (caller.withoutTree, returned.callSites caller name) := by
  have throughTrees : ∀ workspace : Workspace, workspace.WellFormed →
      (workspace.index.allFunctions.map fun caller =>
          (caller.withoutTree, workspace.callSites caller name)) =
        workspace.index.trees.flatMap fun tree => tree.declarations.map fun caller =>
          (caller.withoutTree, tree.callSites caller name) := by
    intro workspace wellFormed
    rw [SyntaxIndex.allFunctions, List.map_flatMap]
    apply List.flatMap_congr
    intro tree indexed
    apply List.map_congr_left
    intro caller declared
    rw [wellFormed.callSites_eq indexed declared]
  rw [throughTrees plain plainReachable.wellFormed,
    throughTrees returned returnedReachable.wellFormed]
  apply flatMap_trees_eq plainReachable returnedReachable same
  intro left right leftId rightId sameDocument
  have sameBlocks : SyntaxTree.blocks keyword left = SyntaxTree.blocks keyword right := by
    rw [SyntaxTree.blocks, SyntaxTree.blocks, sameDocument.lineTexts_eq]
  have leftDeclarations : (SyntaxTree.parse keyword leftId left).declarations =
      (SyntaxTree.blocks keyword left).closed.map (Declaration.ofBlock keyword left.uri leftId) :=
    rfl
  have rightDeclarations : (SyntaxTree.parse keyword rightId right).declarations =
      (SyntaxTree.blocks keyword left).closed.map
        (Declaration.ofBlock keyword left.uri rightId) := by
    rw [sameBlocks, sameDocument.uri]
    rfl
  rw [leftDeclarations, rightDeclarations, List.map_map, List.map_map]
  apply List.map_congr_left
  intro block closed
  refine Prod.ext rfl ?_
  exact sameDocument.callSites_eq (List.mem_map_of_mem closed) rfl named

section Corresponding

variable {declaration other : Declaration}
  (indexed : declaration ∈ plain.index.allFunctions)
  (otherIndexed : other ∈ returned.index.allFunctions)
  (corresponding : declaration.withoutTree = other.withoutTree)
include indexed otherIndexed corresponding

theorem callSites_eq_of_corresponding
    {name : Text} (named : IsName name) :
    plain.callSites declaration name = returned.callSites other name := by
  have found : (declaration.withoutTree, plain.callSites declaration name) ∈
      returned.index.allFunctions.map fun caller =>
        (caller.withoutTree, returned.callSites caller name) := by
    rw [← map_callSites_allFunctions_eq plainReachable returnedReachable same named]
    exact List.mem_map_of_mem indexed
  obtain ⟨twin, twinIndexed, twinEq⟩ := List.mem_map.1 found
  obtain ⟨sameTwin, sameSites⟩ := Prod.mk.inj twinEq
  have isOther : twin = other :=
    returnedReachable.wellFormed.eq_of_withoutTree_eq twinIndexed otherIndexed
      (sameTwin.trans corresponding)
  rw [← sameSites, isOther]

theorem outgoingCalls_eq_of_corresponding :
    (plain.outgoingCalls declaration).map Call.withoutTree =
      (returned.outgoingCalls other).map Call.withoutTree := by
  have sameFunctions := map_withoutTree_allFunctions_eq plainReachable returnedReachable same
  have sameNames : plain.index.allFunctions.map Declaration.name =
      returned.index.allFunctions.map Declaration.name := by
    have names := congrArg (List.map Declaration.name) sameFunctions
    rwa [List.map_map, List.map_map] at names
  rw [map_withoutTree_outgoingCalls, map_withoutTree_outgoingCalls, ← sameNames]
  apply List.filterMap_congr
  intro name searched
  have named : IsName name :=
    plainReachable.wellFormed.isName (mem_descendingNames.1 searched)
  rw [map_withoutTree_findByName?, map_withoutTree_findByName?, sameFunctions,
    callSites_eq_of_corresponding plainReachable returnedReachable same indexed otherIndexed
      corresponding named]

omit otherIndexed in
theorem incomingCalls_eq_of_corresponding :
    (plain.incomingCalls declaration).map Call.withoutTree =
      (returned.incomingCalls other).map Call.withoutTree := by
  have sameName := congrArg Declaration.name corresponding
  have named : IsName declaration.name :=
    plainReachable.wellFormed.isName (List.mem_map_of_mem indexed)
  rw [map_withoutTree_incomingCalls, map_withoutTree_incomingCalls,
    map_callSites_allFunctions_eq plainReachable returnedReachable same named]
  simp only [Declaration.withoutTree] at sameName
  rw [sameName]

end Corresponding

end Indexes

end Workspace

/-- Line endings do not matter. A document without carriage returns and the same document with one
before every line feed declare the same functions and have the same words at all positions; and in
indexes of which one holds such documents, as long as their lines and columns can be counted, where
the other holds the plain ones, declarations that differ in their trees at most have the same callees
and the same callers, in the same order and at the same sites. -/
theorem line_endings_do_not_matter
    (keyword : Keyword) :
    (∀ document : Snapshot, '\r' ∉ document.text →
      (∀ id, (SyntaxTree.parse keyword id document.withReturns).declarations =
        (SyntaxTree.parse keyword id document).declarations) ∧
      ∀ position, document.withReturns.wordRangeAt? position = document.wordRangeAt? position) ∧
    ∀ plain returned : Workspace,
      Workspace.Reachable keyword plain → Workspace.Reachable keyword returned →
      plain.SameButReturns returned →
      plain.index.allFunctions.map Declaration.withoutTree =
        returned.index.allFunctions.map Declaration.withoutTree ∧
      ∀ declaration ∈ plain.index.allFunctions, ∀ other ∈ returned.index.allFunctions,
        declaration.withoutTree = other.withoutTree →
        (plain.outgoingCalls declaration).map Call.withoutTree =
          (returned.outgoingCalls other).map Call.withoutTree ∧
        (plain.incomingCalls declaration).map Call.withoutTree =
          (returned.incomingCalls other).map Call.withoutTree := by
  constructor
  · intro document noReturn
    constructor
    · intro id
      exact SyntaxTree.declarations_parse_congr keyword id rfl
        (Snapshot.lineTexts_withReturns noReturn)
    · exact Snapshot.wordRangeAt?_withReturns noReturn
  · intro plain returned plainReachable returnedReachable same
    refine ⟨Workspace.map_withoutTree_allFunctions_eq plainReachable returnedReachable same, ?_⟩
    intro declaration indexed other otherIndexed corresponding
    constructor
    · exact Workspace.outgoingCalls_eq_of_corresponding plainReachable returnedReachable same
        indexed otherIndexed corresponding
    · exact Workspace.incomingCalls_eq_of_corresponding plainReachable returnedReachable same
        indexed corresponding

/-- A document with line feeds only, in which `h` occurs behind a character of two units and next to
itself. -/
def plainEndings : Snapshot :=
  { uri := ⟨['a'], Eq.refl true⟩
    languageId := []
    version := 1
    text := "f g \x7b\n\t𝄞 h\n\ng hh\n\x7d\nf h \x7b\n\x7d".toList }

/-- A document that calls into the other one, with one of its lines ended by a carriage return. -/
def callingEndings : Snapshot :=
  { uri := ⟨['b'], Eq.refl true⟩
    languageId := []
    version := 1
    text := "f k \x7b\r\n h\n\x7d".toList }

theorem editedEndings_do_not_matter :
    let keyword : Keyword := ⟨['f'], by decide⟩
    let edited : Snapshot := { plainEndings.withReturns with version := 2 }
    let plain : Workspace :=
      ⟨(SyntaxIndex.empty keyword).run [.ensureTree plainEndings, .ensureTree callingEndings], []⟩
    let returned : Workspace :=
      ⟨(SyntaxIndex.empty keyword).run
        [.ensureTree plainEndings, .ensureTree callingEndings, .ensureTree edited], []⟩
    let caller := Declaration.ofBlock keyword plainEndings.uri ⟨0⟩ ⟨['g'], 0, 4⟩
    let callee := Declaration.ofBlock keyword plainEndings.uri ⟨0⟩ ⟨['h'], 5, 6⟩
    let later (declaration : Declaration) : Declaration := { declaration with tree := ⟨2⟩ }
    '\r' ∉ plainEndings.text ∧
      (SyntaxTree.parse keyword ⟨2⟩ plainEndings.withReturns).declarations =
        [later caller, later callee] ∧
      plainEndings.withReturns.wordRangeAt? ⟨3, 1⟩ = plainEndings.wordRangeAt? ⟨3, 1⟩ ∧
      Workspace.Reachable keyword plain ∧ Workspace.Reachable keyword returned ∧
      plain.SameButReturns returned ∧
      caller ∈ plain.index.allFunctions ∧ later caller ∈ returned.index.allFunctions ∧
      (returned.outgoingCalls (later caller)).map (fun call => call.sites.length) = [3, 1] ∧
      (plain.outgoingCalls caller).map Call.withoutTree =
        (returned.outgoingCalls (later caller)).map Call.withoutTree ∧
      (returned.incomingCalls (later callee)).length = 2 ∧
      (plain.incomingCalls callee).map Call.withoutTree =
        (returned.incomingCalls (later callee)).map Call.withoutTree := by
  intro keyword edited plain returned caller callee later
  have noReturn : '\r' ∉ plainEndings.text := by decide +kernel
  have plainReachable : Workspace.Reachable keyword plain := Workspace.reachable_run keyword _
  have returnedReachable : Workspace.Reachable keyword returned := Workspace.reachable_run keyword _
  have plainTrees : plain.index.trees =
      [SyntaxTree.parse keyword ⟨0⟩ plainEndings, SyntaxTree.parse keyword ⟨1⟩ callingEndings] := by
    decide +kernel
  have returnedTrees : returned.index.trees =
      [SyntaxTree.parse keyword ⟨2⟩ edited, SyntaxTree.parse keyword ⟨1⟩ callingEndings] := by
    decide +kernel
  have fits : Text.FitsPositions edited.text := by decide +kernel
  have same : plain.SameButReturns returned := by
    rw [Workspace.SameButReturns, plainTrees, returnedTrees]
    exact List.Forall₂.cons ⟨rfl, Or.inr ⟨noReturn, fits, rfl⟩⟩
      (List.Forall₂.cons ⟨rfl, Or.inl rfl⟩ List.Forall₂.nil)
  have callerIndexed : caller ∈ plain.index.allFunctions := by decide +kernel
  have calleeIndexed : callee ∈ plain.index.allFunctions := by decide +kernel
  have laterCallerIndexed : later caller ∈ returned.index.allFunctions := by decide +kernel
  have laterCalleeIndexed : later callee ∈ returned.index.allFunctions := by decide +kernel
  have declared : (SyntaxTree.parse keyword ⟨2⟩ plainEndings).declarations =
      [later caller, later callee] := by decide +kernel
  obtain ⟨documents, indexes⟩ := line_endings_do_not_matter keyword
  obtain ⟨sameDeclarations, sameWords⟩ := documents plainEndings noReturn
  obtain ⟨_, sameCalls⟩ := indexes plain returned plainReachable returnedReachable same
  exact ⟨noReturn, (sameDeclarations ⟨2⟩).trans declared, sameWords ⟨3, 1⟩, plainReachable,
    returnedReachable, same, callerIndexed, laterCallerIndexed, by decide +kernel,
    (sameCalls caller callerIndexed (later caller) laterCallerIndexed rfl).1, by decide +kernel,
    (sameCalls callee calleeIndexed (later callee) laterCalleeIndexed rfl).2⟩

end CallHierarchy
