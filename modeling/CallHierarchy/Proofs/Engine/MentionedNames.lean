import CallHierarchy.Proofs.Document.Words
import CallHierarchy.Proofs.Engine.LineEndings
import Mathlib.Data.List.Sort

/-!
The names that a body mentions. The calls out of a declaration are, from the last name to the first,
the declared names that occur in its body, each with the first declaration that has it. Which names
these are and where they stand is a matter of the documents; their order in the index only decides
which of several declarations of a name is called.
-/

namespace CallHierarchy

namespace Text

def utf8 (text : Text) : List UInt8 :=
  text.flatMap String.utf8EncodeChar

theorem utf8_cons_of_lt
    {first : Char} (small : first.toNat < 0x80) (rest : Text) :
    utf8 (first :: rest) = first.val.toUInt8 :: utf8 rest := by
  have oneByte : first.utf8Size = 1 := by
    rw [Char.utf8Size_eq_one_iff, UInt32.le_iff_toNat_le]
    exact Nat.le_of_lt_succ small
  rw [utf8, List.flatMap_cons, String.utf8EncodeChar_eq_singleton oneByte, List.singleton_append]
  rfl

/-- Texts of one-byte characters are in the order of their bytes. -/
theorem utf8_lt_of_lt
    {left right : Text} (leftSmall : ∀ character ∈ left, character.toNat < 0x80)
    (rightSmall : ∀ character ∈ right, character.toNat < 0x80) (less : left < right) :
    utf8 left < utf8 right := by
  induction left generalizing right with
  | nil =>
      cases right with
      | nil => exact absurd less (List.not_lt_nil [])
      | cons first rest =>
          rw [utf8_cons_of_lt (rightSmall first List.mem_cons_self)]
          exact List.nil_lt_cons _ _
  | cons first rest inductionHypothesis =>
      cases right with
      | nil => exact absurd less (List.not_lt_nil _)
      | cons second others =>
          obtain ⟨firstSmall, restSmall⟩ := List.forall_mem_cons.1 leftSmall
          obtain ⟨secondSmall, othersSmall⟩ := List.forall_mem_cons.1 rightSmall
          rw [utf8_cons_of_lt firstSmall, utf8_cons_of_lt secondSmall, List.cons_lt_cons_iff]
          rcases List.cons_lt_cons_iff.1 less with smaller | ⟨rfl, restLess⟩
          · left
            have codes : first.toNat < second.toNat := smaller
            rw [UInt8.lt_iff_toNat_lt, UInt32.toNat_toUInt8, UInt32.toNat_toUInt8]
            change first.toNat % 256 < second.toNat % 256
            omega
          · exact Or.inr ⟨rfl, inductionHypothesis restSmall othersSmall restLess⟩

end Text

theorem descendingNames_eq
    {names others : List Text} (sameNames : ∀ name, name ∈ names ↔ name ∈ others) :
    descendingNames names = descendingNames others := by
  have sameMembers : ∀ name, name ∈ descendingNames names ↔ name ∈ descendingNames others := by
    intro name
    rw [mem_descendingNames, mem_descendingNames, sameNames]
  exact List.Pairwise.eq_of_mem_iff (pairwise_descendingNames names)
    (pairwise_descendingNames others) sameMembers

theorem IsName.small
    {name : Text} (named : IsName name) :
    ∀ character ∈ name, character.toNat < 0x80 :=
  fun character member => toNat_lt_of_isNameCharacter (named.characters character member)

/-- The call with the name in place of the declaration that was chosen for it. -/
def Call.named (call : Call Declaration) : Call Text :=
  ⟨call.symbol.name, call.sites⟩

namespace Workspace

section Names

variable {workspace : Workspace} {caller : Declaration} {name : Text}

/-- No name is dropped for lack of a declaration. -/
theorem map_named_outgoingCalls
    (workspace : Workspace) (caller : Declaration) :
    (workspace.outgoingCalls caller).map Call.named =
      (descendingNames (workspace.index.allFunctions.map Declaration.name)).filterMap fun name =>
        call? name (workspace.callSites caller name) := by
  rw [outgoingCalls, List.map_filterMap]
  apply List.filterMap_congr
  intro name searched
  obtain ⟨declaration, member, rfl⟩ := List.mem_map.1 (mem_descendingNames.1 searched)
  obtain ⟨callee, found⟩ := exists_findByName? member
  rw [found, Option.bind_some, ← name_of_findByName? found]
  exact map_call? Declaration.name callee _

theorem known_of_mem_outgoingCalls
    {call : Call Declaration} (member : call ∈ workspace.outgoingCalls caller) :
    call.symbol.name ∈ workspace.index.allFunctions.map Declaration.name :=
  List.mem_map_of_mem (mem_of_findByName? (mem_outgoingCalls.1 member).1)

/-- The called names are the declared ones that occur in the body. -/
theorem WellFormed.mem_names_outgoingCalls
    (wellFormed : workspace.WellFormed) {tree : SyntaxTree} (indexed : tree ∈ workspace.index.trees)
    (declared : caller ∈ tree.declarations) :
    (name ∈ (workspace.outgoingCalls caller).map fun call => call.symbol.name) ↔
      name ∈ workspace.index.allFunctions.map Declaration.name ∧
        name <:+: tree.bodyText caller := by
  have occurs_iff : name ∈ workspace.index.allFunctions.map Declaration.name →
      (workspace.callSites caller name ≠ [] ↔ name <:+: tree.bodyText caller) := by
    intro known
    rw [wellFormed.callSites_eq indexed declared, ne_eq,
      callSites_eq_nil_iff (wellFormed.isName known).nonempty, not_not]
  constructor
  · intro listed
    obtain ⟨call, member, rfl⟩ := List.mem_map.1 listed
    obtain ⟨_, someSite, sitesEq⟩ := mem_outgoingCalls.1 member
    have known := known_of_mem_outgoingCalls member
    refine ⟨known, (occurs_iff known).1 ?_⟩
    rwa [sitesEq]
  · rintro ⟨known, occurs⟩
    by_contra notListed
    have noRecord : ∀ call ∈ workspace.outgoingCalls caller, call.symbol.name ≠ name := by
      intro call member sameName
      exact notListed (List.mem_map.2 ⟨call, member, sameName⟩)
    exact (occurs_iff known).2 occurs ((not_mem_outgoingCalls_iff known).1 noRecord)

theorem WellFormed.descending_utf8_outgoingCalls
    (wellFormed : workspace.WellFormed) (caller : Declaration) :
    ((workspace.outgoingCalls caller).map fun call => Text.utf8 call.symbol.name).Pairwise
      fun left right => right < left := by
  refine List.pairwise_map.2 ((workspace.descending_outgoingCalls caller).imp_of_mem ?_)
  intro left right leftMember rightMember descending
  have named : ∀ call ∈ workspace.outgoingCalls caller, IsName call.symbol.name :=
    fun call member => wellFormed.isName (known_of_mem_outgoingCalls member)
  exact Text.utf8_lt_of_lt (named right rightMember).small (named left leftMember).small descending

end Names

/-- The documents of an index, in its order, with their texts. -/
def texts (workspace : Workspace) : List (Uri × Text) :=
  workspace.index.trees.map fun tree => (tree.uri, tree.document.text)

section SameTexts

variable {keyword : Keyword} {workspace other : Workspace}
  (reachable : Reachable keyword workspace) (otherReachable : Reachable keyword other)
  (sameTexts : workspace.texts ⊆ other.texts)
include reachable otherReachable sameTexts

/-- Every declaration of a document has a twin in every other index of the document, and a name
stands at the same sites of both bodies. -/
theorem exists_twin
    {declaration : Declaration} (indexed : declaration ∈ workspace.index.allFunctions) :
    ∃ twin ∈ other.index.allFunctions, twin.withoutTree = declaration.withoutTree ∧
      ∀ name, other.callSites twin name = workspace.callSites declaration name := by
  have wellFormed := reachable.wellFormed
  have otherWellFormed := otherReachable.wellFormed
  obtain ⟨tree, treeIndexed, declared⟩ := List.mem_flatMap.1 indexed
  obtain ⟨twinTree, twinIndexed, sameDocument⟩ :=
    List.mem_map.1 (sameTexts (List.mem_map_of_mem treeIndexed))
  obtain ⟨sameUri, sameText⟩ := Prod.mk.inj sameDocument
  have parsed := wellFormed.parsed tree (mem_liveTrees_of_indexed treeIndexed)
  have twinParsed := otherWellFormed.parsed twinTree (mem_liveTrees_of_indexed twinIndexed)
  rw [reachable.keyword_eq] at parsed
  rw [otherReachable.keyword_eq] at twinParsed
  have sameDeclarations : twinTree.declarations.map Declaration.withoutTree =
      tree.declarations.map Declaration.withoutTree := by
    rw [parsed, twinParsed, SyntaxTree.map_withoutTree_parse, SyntaxTree.map_withoutTree_parse]
    exact SyntaxTree.declarations_parse_congr keyword ⟨0⟩ sameUri
      (Snapshot.lineTexts_congr sameText)
  have hasTwin : declaration.withoutTree ∈ twinTree.declarations.map Declaration.withoutTree := by
    rw [sameDeclarations]
    exact List.mem_map_of_mem declared
  obtain ⟨twin, twinDeclared, corresponding⟩ := List.mem_map.1 hasTwin
  refine ⟨twin, List.mem_flatMap.2 ⟨twinTree, twinIndexed, twinDeclared⟩, corresponding, ?_⟩
  intro name
  rw [wellFormed.callSites_eq treeIndexed declared,
    otherWellFormed.callSites_eq twinIndexed twinDeclared]
  have sameBody := congrArg Declaration.bodyRange corresponding
  exact SyntaxTree.callSites_congr sameUri sameText sameBody name

theorem known_of_known
    {name : Text} (known : name ∈ workspace.index.allFunctions.map Declaration.name) :
    name ∈ other.index.allFunctions.map Declaration.name := by
  obtain ⟨declaration, indexed, rfl⟩ := List.mem_map.1 known
  obtain ⟨twin, twinIndexed, corresponding, _⟩ :=
    exists_twin reachable otherReachable sameTexts indexed
  have sameName := congrArg Declaration.name corresponding
  exact List.mem_map.2 ⟨twin, twinIndexed, sameName⟩

end SameTexts

/-- The names that a declaration calls, and the sites of each, do not depend on the order of
documents. -/
theorem map_named_outgoingCalls_eq
    {keyword : Keyword} {workspace other : Workspace}
    (reachable : Reachable keyword workspace) (otherReachable : Reachable keyword other)
    (sameTexts : workspace.texts.Perm other.texts) {caller twin : Declaration}
    (indexed : caller ∈ workspace.index.allFunctions)
    (twinIndexed : twin ∈ other.index.allFunctions)
    (corresponding : twin.withoutTree = caller.withoutTree) :
    (other.outgoingCalls twin).map Call.named = (workspace.outgoingCalls caller).map Call.named := by
  obtain ⟨found, foundIndexed, foundCorresponding, sameSites⟩ :=
    exists_twin reachable otherReachable sameTexts.subset indexed
  obtain rfl : found = twin :=
    otherReachable.wellFormed.eq_of_withoutTree_eq foundIndexed twinIndexed
      (foundCorresponding.trans corresponding.symm)
  have sameNames : descendingNames (other.index.allFunctions.map Declaration.name) =
      descendingNames (workspace.index.allFunctions.map Declaration.name) := by
    apply descendingNames_eq
    intro name
    exact ⟨known_of_known otherReachable reachable sameTexts.symm.subset,
      known_of_known reachable otherReachable sameTexts.subset⟩
  rw [map_named_outgoingCalls, map_named_outgoingCalls, sameNames]
  simp only [sameSites]

end Workspace

/-- In every reachable workspace, the calls out of an indexed declaration are made to the declared
names that occur in its body, each of them once, in descending order of their bytes, and each
stands for its first declaration. A workspace that has the same documents in another order knows the
same declarations, and the calls out of each have the same names and sites. -/
theorem outgoingCalls_are_names_in_body
    {keyword : Keyword} {workspace : Workspace}
    (reachable : Workspace.Reachable keyword workspace)
    {caller : Declaration} (indexed : caller ∈ workspace.index.allFunctions) :
    ∃ body, workspace.bodyText? caller = some body ∧
      (((workspace.outgoingCalls caller).map fun call => Text.utf8 call.symbol.name).Pairwise
        fun left right => right < left) ∧
      (∀ name, (name ∈ (workspace.outgoingCalls caller).map fun call => call.symbol.name) ↔
        name ∈ workspace.index.allFunctions.map Declaration.name ∧ name <:+: body) ∧
      (∀ call ∈ workspace.outgoingCalls caller,
        workspace.index.findByName? call.symbol.name = some call.symbol) ∧
      ∀ other, Workspace.Reachable keyword other → workspace.texts.Perm other.texts →
        (∃ twin ∈ other.index.allFunctions, twin.withoutTree = caller.withoutTree) ∧
          ∀ twin ∈ other.index.allFunctions, twin.withoutTree = caller.withoutTree →
            (other.outgoingCalls twin).map Call.named =
              (workspace.outgoingCalls caller).map Call.named := by
  have wellFormed := reachable.wellFormed
  obtain ⟨tree, treeIndexed, declared⟩ := List.mem_flatMap.1 indexed
  have bodyEq := wellFormed.bodyText?_eq (Workspace.mem_liveTrees_of_indexed treeIndexed) declared
  refine ⟨tree.bodyText caller, bodyEq, wellFormed.descending_utf8_outgoingCalls caller, ?_, ?_, ?_⟩
  · intro name
    exact wellFormed.mem_names_outgoingCalls treeIndexed declared
  · intro call member
    exact (Workspace.mem_outgoingCalls.1 member).1
  · intro other otherReachable sameTexts
    constructor
    · obtain ⟨twin, twinIndexed, corresponding, _⟩ :=
        Workspace.exists_twin reachable otherReachable sameTexts.subset indexed
      exact ⟨twin, twinIndexed, corresponding⟩
    · intro twin twinIndexed corresponding
      exact Workspace.map_named_outgoingCalls_eq reachable otherReachable sameTexts indexed
        twinIndexed corresponding

/-- A document that declares `g` and mentions it, alone and inside a longer name, in the body of
`m`. -/
def mentioningDocument : Snapshot :=
  { uri := ⟨['a'], Eq.refl true⟩
    languageId := []
    version := 1
    text := "f g \x7b\n\x7d\nf m \x7b\n gg g m\n\x7d".toList }

/-- A document that declares `g` as well, the longer name, and one that is not mentioned. -/
def mentionedDocument : Snapshot :=
  { uri := ⟨['b'], Eq.refl true⟩
    languageId := []
    version := 1
    text := "f x \x7b\n\x7d\nf g \x7b\n\x7d\nf gg \x7b\n\x7d".toList }

theorem bothOrders_outgoingCalls_are_names_in_body :
    let keyword : Keyword := ⟨['f'], by decide⟩
    let workspace : Workspace :=
      ⟨(SyntaxIndex.empty keyword).run
        [.ensureTree mentioningDocument, .ensureTree mentionedDocument], []⟩
    let other : Workspace :=
      ⟨(SyntaxIndex.empty keyword).run
        [.ensureTree mentionedDocument, .ensureTree mentioningDocument], []⟩
    let caller := Declaration.ofBlock keyword mentioningDocument.uri ⟨0⟩ ⟨['m'], 2, 4⟩
    let twin := Declaration.ofBlock keyword mentioningDocument.uri ⟨1⟩ ⟨['m'], 2, 4⟩
    Workspace.Reachable keyword workspace ∧ Workspace.Reachable keyword other ∧
      caller ∈ workspace.index.allFunctions ∧ twin ∈ other.index.allFunctions ∧
      workspace.texts.Perm other.texts ∧
      (workspace.outgoingCalls caller).map (fun call => (call.symbol.name, call.symbol.uri.text)) =
        [(['m'], ['a']), (['g', 'g'], ['b']), (['g'], ['a'])] ∧
      (other.outgoingCalls twin).map (fun call => (call.symbol.name, call.symbol.uri.text)) =
        [(['m'], ['a']), (['g', 'g'], ['b']), (['g'], ['b'])] ∧
      (other.outgoingCalls twin).map Call.named =
        (workspace.outgoingCalls caller).map Call.named := by
  intro keyword workspace other caller twin
  have reachable : Workspace.Reachable keyword workspace := Workspace.reachable_run keyword _
  have otherReachable : Workspace.Reachable keyword other := Workspace.reachable_run keyword _
  have indexed : caller ∈ workspace.index.allFunctions := by decide +kernel
  have twinIndexed : twin ∈ other.index.allFunctions := by decide +kernel
  have sameTexts : workspace.texts.Perm other.texts := by decide +kernel
  obtain ⟨body, _, _, _, _, ordersAgree⟩ := outgoingCalls_are_names_in_body reachable indexed
  exact ⟨reachable, otherReachable, indexed, twinIndexed, sameTexts, by decide +kernel,
    by decide +kernel, (ordersAgree other otherReachable sameTexts).2 twin twinIndexed rfl⟩

end CallHierarchy
