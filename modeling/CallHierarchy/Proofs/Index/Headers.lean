import CallHierarchy.Proofs.Document.Words
import CallHierarchy.Proofs.Index.Edits

/-!
From a header to its declaration. A position on the name in a header finds the whole name as the word
there, and bringing the document up to date puts what it declares into the index; so the search leads
to the first declaration of that name, which is the declaration itself unless an earlier one has its
name.
-/

namespace CallHierarchy

theorem SyntaxTree.contains_of_onHeader
    {keyword : Keyword} {id : TreeId} {document : Snapshot} {declaration : Declaration}
    (declared : declaration ∈ (parse keyword id document).declarations)
    {position : Position} (onHeader : position.line = declaration.fullRange.start.line)
    (start : declaration.nameRange.start.character ≤ position.character)
    (finish : position.character ≤ declaration.nameRange.finish.character) :
    declaration.nameRange.contains position = true := by
  obtain ⟨block, _, rfl⟩ := mem_declarations_parse declared
  simp only [Declaration.ofBlock, Range.onLine] at onHeader start finish
  simp [Declaration.ofBlock, Range.onLine, Range.contains, Position.atOrBefore, onHeader, start,
    finish]

namespace SyntaxIndex

/-- The cached text of a document's URI and version is the document's own. -/
def KeepsText (index : SyntaxIndex) (document : Snapshot) : Prop :=
  ∀ tree, index.tree? document.uri = some tree → tree.version = document.version →
    tree.document.text = document.text

variable {index : SyntaxIndex} {document : Snapshot}

theorem KeepsText.text_ensureTree
    (keeps : index.KeepsText document) :
    (index.ensureTree document).1.document.text = document.text := by
  rcases index.ensureTree_cases document with ⟨tree, found, sameVersion, hit⟩ | ⟨_, parsed⟩
  · rw [hit]
    exact keeps tree found sameVersion
  · rw [parsed]
    rfl

theorem find_of_wordAt?
    {position : Position} {word : Text} (read : wordAt? document position = some word) :
    index.find document position =
      ((index.ensureTree document).2.findByName? word, (index.ensureTree document).2) := by
  rw [find, read]

end SyntaxIndex

/-- After a document was brought up to date, the index has what the document declares. -/
theorem Workspace.Reachable.exists_own
    {keyword : Keyword} {workspace : Workspace} (reachable : Reachable keyword workspace)
    {document : Snapshot} (keeps : workspace.index.KeepsText document)
    {id : TreeId} {declaration : Declaration}
    (declared : declaration ∈ (SyntaxTree.parse keyword id document).declarations) :
    ∃ own ∈ (workspace.index.ensureTree document).2.allFunctions,
      own.withoutTree = declaration.withoutTree := by
  let after : Workspace := { workspace with index := (workspace.index.ensureTree document).2 }
  let tree := (workspace.index.ensureTree document).1
  have afterReachable : Reachable keyword after :=
    reachable.tail (Step.perform workspace (.ensureTree document))
  obtain ⟨indexed, sameUri⟩ :=
    SyntaxIndex.tree?_eq_some (workspace.index.tree?_ensureTree document).1
  have parsed : tree = SyntaxTree.parse keyword tree.id tree.document := by
    rw [← afterReachable.keyword_eq]
    exact afterReachable.wellFormed.parsed tree (mem_liveTrees_of_indexed indexed)
  have sameDeclarations : tree.declarations.map Declaration.withoutTree =
      (SyntaxTree.parse keyword id document).declarations.map Declaration.withoutTree := by
    rw [parsed, SyntaxTree.map_withoutTree_parse, SyntaxTree.map_withoutTree_parse]
    exact SyntaxTree.declarations_parse_congr keyword ⟨0⟩ sameUri
      (Snapshot.lineTexts_congr keeps.text_ensureTree)
  have shown : declaration.withoutTree ∈ tree.declarations.map Declaration.withoutTree := by
    rw [sameDeclarations]
    exact List.mem_map_of_mem declared
  obtain ⟨own, ownDeclared, sameOwn⟩ := List.mem_map.1 shown
  exact ⟨own, List.mem_flatMap.2 ⟨tree, indexed, ownDeclared⟩, sameOwn⟩

theorem find?_eq_of_no_earlier
    {name : Text} {earlier later : List Declaration} {own : Declaration} (ownName : own.name = name)
    (noEarlier : ∀ other ∈ earlier, other.name ≠ name) :
    (earlier ++ own :: later).find? (fun other => other.name = name) = some own := by
  have passed : earlier.find? (fun other => other.name = name) = none := by
    simpa [List.find?_eq_none] using noEarlier
  rw [List.find?_append, passed, Option.none_or, List.find?_cons_of_pos (by simp [ownName])]

/-- In every reachable workspace, a search from a position on the name in a header, both ends of the
name included, reads the whole name and finds the first declaration of that name in the index with
the document brought up to date. The declaration of the header is in that index, and it is the one
that is found unless an earlier one has its name. -/
theorem find_reaches_declaration_of_header
    {keyword : Keyword} {workspace : Workspace}
    (reachable : Workspace.Reachable keyword workspace)
    {document : Snapshot} (fits : Text.FitsPositions document.text)
    (keeps : workspace.index.KeepsText document)
    {id : TreeId} {declaration : Declaration}
    (declared : declaration ∈ (SyntaxTree.parse keyword id document).declarations)
    {position : Position} (onHeader : position.line = declaration.fullRange.start.line)
    (start : declaration.nameRange.start.character ≤ position.character)
    (finish : position.character ≤ declaration.nameRange.finish.character) :
    let after := (workspace.index.ensureTree document).2
    document.wordRangeAt? position = some declaration.nameRange ∧
      ∃ found own,
        workspace.index.find document position = (some found, after) ∧
        (after.allFunctions.find? fun other => other.name = declaration.name) = some found ∧
        own ∈ after.allFunctions ∧ own.withoutTree = declaration.withoutTree ∧
        ∀ earlier later, after.allFunctions = earlier ++ own :: later →
          (∀ other ∈ earlier, other.name ≠ declaration.name) → found = own := by
  intro after
  have within := SyntaxTree.contains_of_onHeader declared onHeader start finish
  obtain ⟨rangeRead, wordRead⟩ := SyntaxTree.word_of_contains fits declared within
  obtain ⟨own, ownIndexed, sameOwn⟩ := reachable.exists_own keeps declared
  have ownName := congrArg Declaration.name sameOwn
  simp only [Declaration.withoutTree] at ownName
  obtain ⟨found, foundNamed⟩ := Workspace.exists_findByName? ownIndexed
  rw [ownName] at foundNamed
  refine ⟨rangeRead, found, own, ?_, ?_, ownIndexed, sameOwn, ?_⟩
  · rw [SyntaxIndex.find_of_wordAt? wordRead, foundNamed]
  · rw [← SyntaxIndex.findByName?_eq_find?, foundNamed]
  · intro earlier later functionsEq noEarlier
    have foundFirst := foundNamed
    rw [SyntaxIndex.findByName?_eq_find?, functionsEq,
      find?_eq_of_no_earlier ownName noEarlier] at foundFirst
    exact (Option.some.inj foundFirst).symm

/-- A keyword that ends in a letter behind a character of two units. -/
def wideKeyword : Keyword := ⟨['𝄞', 'f'], Eq.refl true⟩

def otherHeaders : Snapshot :=
  ⟨⟨['a'], Eq.refl true⟩, [], 1, "𝄞f h \x7b\n\x7d".toList⟩

/-- The name `h` of the other document is declared here too, and `g1` stands next to the blank and
the brace. -/
def ownHeaders : Snapshot :=
  ⟨⟨['b'], Eq.refl true⟩, [], 2, "\n𝄞f g1\x7b\n\x7d\n𝄞f h \x7b\n\x7d".toList⟩

theorem wideKeyword_find_reaches_declaration :
    let workspace : Workspace :=
      ⟨(SyntaxIndex.empty wideKeyword).run [.ensureTree otherHeaders, .ensureTree ownHeaders], []⟩
    let declaration := Declaration.ofBlock wideKeyword ownHeaders.uri ⟨7⟩ ⟨['g', '1'], 1, 2⟩
    let own : Declaration := { declaration with tree := ⟨1⟩ }
    Workspace.Reachable wideKeyword workspace ∧ Text.FitsPositions ownHeaders.text ∧
      workspace.index.KeepsText ownHeaders ∧
      declaration ∈ (SyntaxTree.parse wideKeyword ⟨7⟩ ownHeaders).declarations ∧
      declaration.nameRange = ⟨⟨1, 4⟩, ⟨1, 6⟩⟩ ∧
      ownHeaders.wordRangeAt? ⟨1, 6⟩ = some declaration.nameRange ∧
      (workspace.index.find ownHeaders ⟨1, 6⟩).1 = some own := by
  intro workspace declaration own
  have reachable : Workspace.Reachable wideKeyword workspace := Workspace.reachable_run wideKeyword _
  have fits : Text.FitsPositions ownHeaders.text := by decide +kernel
  have cached : workspace.index.tree? ownHeaders.uri =
      some (SyntaxTree.parse wideKeyword ⟨1⟩ ownHeaders) := by decide +kernel
  have keeps : workspace.index.KeepsText ownHeaders := by
    intro tree found _
    rw [cached] at found
    obtain rfl := Option.some.inj found
    rfl
  have declared : declaration ∈ (SyntaxTree.parse wideKeyword ⟨7⟩ ownHeaders).declarations := by
    decide +kernel
  have functionsEq : (workspace.index.ensureTree ownHeaders).2.allFunctions =
      [Declaration.ofBlock wideKeyword otherHeaders.uri ⟨0⟩ ⟨['h'], 0, 1⟩] ++ own ::
        [Declaration.ofBlock wideKeyword ownHeaders.uri ⟨1⟩ ⟨['h'], 3, 4⟩] := by decide +kernel
  have onlyOwn : ∀ other ∈ (workspace.index.ensureTree ownHeaders).2.allFunctions,
      other.withoutTree = declaration.withoutTree → other = own := by decide +kernel
  obtain ⟨rangeRead, found, shown, performed, _, shownIndexed, sameShown, reached⟩ :=
    find_reaches_declaration_of_header reachable fits keeps declared
      (show (⟨1, 6⟩ : Position).line = 1 from rfl) (by decide +kernel) (by decide +kernel)
  obtain rfl := onlyOwn shown shownIndexed sameShown
  have foundEq := reached _ _ functionsEq (by decide +kernel)
  refine ⟨reachable, fits, keeps, declared, by decide +kernel, rangeRead, ?_⟩
  rw [performed, foundEq]

end CallHierarchy
