import CallHierarchy.Proofs.Engine.Sites
import CallHierarchy.Proofs.Engine.Symmetry

/-!
The sites of a call are the copies of a name in a body, taken from the left without overlap. Every
site lies on one line of the body and its range reads as the name, in whatever units the characters
before it are counted; the sites follow one another without overlap; and a copy of the name that is
not among them starts inside an earlier one that is. Calls are recorded, in both directions, for the
names that occur in the body and for no others.
-/

namespace CallHierarchy

/-- The place of a copy of a name that stands behind `before` in the body of a declaration. -/
def SyntaxTree.copySite (tree : SyntaxTree) (declaration : Declaration) (before name : Text) :
    Location :=
  let start := tree.document.offsetAt declaration.bodyRange.start + before.byteLength
  { uri := tree.uri
    range :=
      { start := tree.document.positionAt start
        finish := tree.document.positionAt (start + name.byteLength) } }

/-- A site in a body: a stretch of one line of the body that reads as the name. -/
structure SoundSite (tree : SyntaxTree) (declaration : Declaration) (name : Text)
    (site : Location) : Prop where
  uri : site.uri = declaration.uri
  oneLine : site.range.start.line = site.range.finish.line
  inBody : declaration.bodyRange.encloses site.range = true
  reads : tree.document.textIn site.range = name

/-- The sites of a name in a body, taken from the left without overlap. -/
structure GreedySites (tree : SyntaxTree) (declaration : Declaration) (name : Text)
    (sites : List Location) : Prop where
  sound : ∀ site ∈ sites, SoundSite tree declaration name site
  increasing : sites.Pairwise fun left right => left.range.start.Before right.range.start
  apart : sites.Pairwise fun left right =>
    left.range.finish.atOrBefore right.range.start = true
  /-- A copy of the name is a site, or starts inside one that starts before it. -/
  complete : ∀ before behind, tree.bodyText declaration = before ++ (name ++ behind) →
    tree.copySite declaration before name ∈ sites ∨
      ∃ site ∈ sites,
        site.range.start.Before (tree.copySite declaration before name).range.start ∧
          (tree.copySite declaration before name).range.start.Before site.range.finish

section Copy

variable {document : Snapshot} {low high : Nat} {head body tail before name behind : Text}

theorem IsName.inLine_start
    (named : IsName name) (before behind : Text) :
    Text.InLine before (name ++ behind) := by
  obtain ⟨first, rest, nameEq⟩ := List.exists_cons_of_ne_nil named.nonempty
  left
  refine ⟨first, by rw [nameEq]; rfl, ?_⟩
  rintro rfl
  exact not_mem_of_isName named (by rw [nameEq]; exact List.mem_cons_self)

theorem IsName.inLine_finish
    (named : IsName name) (before behind : Text) :
    Text.InLine (before ++ name) behind := by
  right
  intro isReturn
  rw [List.getLast?_append_of_ne_nil _ named.nonempty] at isReturn
  have isNameReturn := named.characters '\r' (List.mem_of_getLast? isReturn)
  revert isNameReturn
  decide

theorem LinesCut.positionAt_start
    (cut : LinesCut document.text low high head body tail)
    (bodyEq : body = before ++ (name ++ behind)) :
    document.positionAt (Text.byteLength head + Text.byteLength before) =
      Text.endPosition (head ++ before) := by
  rw [← Text.byteLength_append]
  exact Snapshot.positionAt_of_append (cut.textEq_copy bodyEq)

theorem LinesCut.positionAt_finish
    (cut : LinesCut document.text low high head body tail)
    (bodyEq : body = before ++ (name ++ behind)) :
    document.positionAt
        (Text.byteLength head + Text.byteLength before + Text.byteLength name) =
      Text.endPosition (head ++ before ++ name) := by
  have textEq := cut.textEq_copy bodyEq
  rw [← List.append_assoc] at textEq
  rw [← Text.byteLength_append, ← Text.byteLength_append]
  exact Snapshot.positionAt_of_append textEq

/-- A copy of a name in whole lines lies on one of them and is read back from its range. -/
theorem LinesCut.copy_sound
    (fits : Text.FitsPositions document.text)
    (cut : LinesCut document.text low high head body tail)
    (named : IsName name) (bodyEq : body = before ++ (name ++ behind)) :
    let range : Range :=
      ⟨document.positionAt (Text.byteLength head + Text.byteLength before),
        document.positionAt
          (Text.byteLength head + Text.byteLength before + Text.byteLength name)⟩
    range.start.line = range.finish.line ∧
      Range.encloses ⟨⟨low, 0⟩, ⟨high, 0⟩⟩ range = true ∧ document.textIn range = name := by
  intro range
  have textEq := cut.textEq_copy bodyEq
  have noFeed := not_mem_of_isName named
  have startEq : range.start = Text.endPosition (head ++ before) := cut.positionAt_start bodyEq
  have finishEq : range.finish = Text.endPosition (head ++ before ++ name) :=
    cut.positionAt_finish bodyEq
  have rangeEq : range =
      ⟨Text.endPosition (head ++ before), Text.endPosition (head ++ before ++ name)⟩ := by
    rw [← startEq, ← finishEq]
  have nameFits : Text.FitsPositions (head ++ before ++ name) := by
    rw [textEq, ← List.append_assoc] at fits
    exact fits.of_append
  have startLine : range.start.line = (head ++ before).count '\n' := by
    rw [startEq, nameFits.of_append.line_endPosition]
  have finishLine : range.finish.line = (head ++ before).count '\n' := by
    rw [finishEq, nameFits.line_endPosition, List.count_append, List.count_eq_zero.2 noFeed,
      Nat.add_zero]
  have lineBounds := cut.count_before named.nonempty noFeed bodyEq
  refine ⟨startLine.trans finishLine.symm, ?_, ?_⟩
  · simp only [Range.encloses, Range.contains, Position.atOrBefore, startLine, finishLine,
      Bool.and_eq_true, Bool.or_eq_true, decide_eq_true_eq, beq_iff_eq]
    omega
  · rw [rangeEq]
    exact Snapshot.textIn_endPosition fits textEq (named.inLine_start _ _)
      (named.inLine_finish _ _)

end Copy

section ParsedDocument

variable {keyword : Keyword} {id : TreeId} {document : Snapshot} {declaration : Declaration}
  {name : Text}

/-- Every site is a copy of the name on one line of the body. -/
theorem soundSite_of_mem_callSites
    (fits : Text.FitsPositions document.text)
    (declared : declaration ∈ (SyntaxTree.parse keyword id document).declarations)
    (named : IsName name) {site : Location}
    (member : site ∈ (SyntaxTree.parse keyword id document).callSites declaration name) :
    SoundSite (SyntaxTree.parse keyword id document) declaration name site := by
  obtain ⟨head, body, tail, cut, bodyRangeEq⟩ := exists_linesCut_body fits declared
  rw [cut.callSites_eq bodyRangeEq] at member
  obtain ⟨offset, found, rfl⟩ := List.mem_map.1 member
  obtain ⟨before, behind, bodyEq, rfl⟩ := Text.exists_of_mem_occurrences found
  obtain ⟨oneLine, inBody, reads⟩ := cut.copy_sound fits named bodyEq
  rw [← bodyRangeEq] at inBody
  exact
    { uri := (SyntaxTree.uri_of_mem_parse declared).symm
      oneLine := oneLine
      inBody := inBody
      reads := reads }

theorem apart_callSites
    (fits : Text.FitsPositions document.text)
    (declared : declaration ∈ (SyntaxTree.parse keyword id document).declarations)
    (nonempty : name ≠ []) :
    ((SyntaxTree.parse keyword id document).callSites declaration name).Pairwise
      fun left right => left.range.finish.atOrBefore right.range.start = true := by
  obtain ⟨head, body, tail, cut, bodyRangeEq⟩ := exists_linesCut_body fits declared
  rw [cut.callSites_eq bodyRangeEq, List.pairwise_map]
  refine (Text.apart_occurrences nonempty body).imp_of_mem ?_
  intro left right leftFound rightFound ordered
  obtain ⟨leftBefore, leftBehind, leftEq, rfl⟩ := Text.exists_of_mem_occurrences leftFound
  obtain ⟨rightBefore, rightBehind, rightEq, rfl⟩ := Text.exists_of_mem_occurrences rightFound
  have leftText := cut.textEq_copy leftEq
  rw [← List.append_assoc] at leftText
  dsimp only
  rw [← Text.byteLength_append, ← Text.byteLength_append, ← Text.byteLength_append]
  apply Snapshot.positionAt_atOrBefore fits leftText (cut.textEq_copy rightEq)
  simp only [Text.byteLength_append]
  omega

/-- A copy of the name in the body is a site or starts inside an earlier one. -/
theorem complete_callSites
    (fits : Text.FitsPositions document.text)
    (declared : declaration ∈ (SyntaxTree.parse keyword id document).declarations)
    (nonempty : name ≠ []) {before behind : Text}
    (bodyEq : (SyntaxTree.parse keyword id document).bodyText declaration =
      before ++ (name ++ behind)) :
    let tree := SyntaxTree.parse keyword id document
    tree.copySite declaration before name ∈ tree.callSites declaration name ∨
      ∃ site ∈ tree.callSites declaration name,
        site.range.start.Before (tree.copySite declaration before name).range.start ∧
          (tree.copySite declaration before name).range.start.Before site.range.finish := by
  intro tree
  obtain ⟨head, body, tail, cut, bodyRangeEq⟩ := exists_linesCut_body fits declared
  have copyEq : tree.copySite declaration before name =
      { uri := document.uri
        range :=
          { start := document.positionAt (Text.byteLength head + Text.byteLength before)
            finish := document.positionAt
              (Text.byteLength head + Text.byteLength before + name.byteLength) } } := by
    rw [← cut.offsetAt_body bodyRangeEq]
    rfl
  rw [cut.bodyText_eq bodyRangeEq] at bodyEq
  rw [cut.callSites_eq bodyRangeEq, copyEq]
  rcases Text.covered_occurrences nonempty bodyEq with here | ⟨found, member, starts, covers⟩
  · exact Or.inl (List.mem_map_of_mem here)
  · refine Or.inr ⟨_, List.mem_map_of_mem member, ?_⟩
    obtain ⟨earlier, rest, earlierEq, rfl⟩ := Text.exists_of_mem_occurrences member
    have copyText := cut.textEq_copy bodyEq
    have earlierText := cut.textEq_copy earlierEq
    have earlierFinish := cut.textEq_copy earlierEq
    rw [← List.append_assoc] at earlierFinish
    dsimp only
    simp only [← Text.byteLength_append]
    constructor
    · apply Snapshot.positionAt_before fits earlierText copyText
      simp only [Text.byteLength_append]
      omega
    · apply Snapshot.positionAt_before fits copyText earlierFinish
      simp only [Text.byteLength_append]
      omega

theorem greedySites_callSites
    (fits : Text.FitsPositions document.text)
    (declared : declaration ∈ (SyntaxTree.parse keyword id document).declarations)
    (named : IsName name) :
    GreedySites (SyntaxTree.parse keyword id document) declaration name
      ((SyntaxTree.parse keyword id document).callSites declaration name) where
  sound _ := soundSite_of_mem_callSites fits declared named
  increasing := pairwise_callSites fits declared name
  apart := apart_callSites fits declared named.nonempty
  complete _ _ := complete_callSites fits declared named.nonempty

/-- A body has no site exactly when the name does not occur in it. -/
theorem callSites_eq_nil_iff
    (nonempty : name ≠ []) (tree : SyntaxTree) (declaration : Declaration) :
    tree.callSites declaration name = [] ↔ ¬ name <:+: tree.bodyText declaration := by
  rw [← Text.occurrences_eq_nil_iff nonempty]
  exact List.map_eq_nil_iff

end ParsedDocument

namespace Workspace

section Indexed

variable {workspace : Workspace} {tree : SyntaxTree} {caller : Declaration} {name : Text}

theorem WellFormed.callSites_eq
    (wellFormed : workspace.WellFormed) (indexed : tree ∈ workspace.index.trees)
    (declared : caller ∈ tree.declarations) (name : Text) :
    workspace.callSites caller name = tree.callSites caller name := by
  rw [callSites, wellFormed.treeOf?_eq (mem_liveTrees_of_indexed indexed) declared]

theorem WellFormed.isName
    (wellFormed : workspace.WellFormed)
    (known : name ∈ workspace.index.allFunctions.map Declaration.name) :
    IsName name := by
  obtain ⟨declaration, member, rfl⟩ := List.mem_map.1 known
  obtain ⟨tree, indexed, declared⟩ := List.mem_flatMap.1 member
  rw [wellFormed.parsed tree (mem_liveTrees_of_indexed indexed)] at declared
  exact SyntaxTree.isName_of_mem_parse declared

theorem WellFormed.greedySites
    (wellFormed : workspace.WellFormed) (indexed : tree ∈ workspace.index.trees)
    (fits : Text.FitsPositions tree.document.text) (declared : caller ∈ tree.declarations)
    (named : IsName name) :
    GreedySites tree caller name (workspace.callSites caller name) := by
  have parsed := wellFormed.parsed tree (mem_liveTrees_of_indexed indexed)
  rw [wellFormed.callSites_eq indexed declared]
  rw [parsed] at declared ⊢
  exact greedySites_callSites fits declared named

theorem not_mem_incomingCalls_iff
    (member : caller ∈ workspace.index.allFunctions) (anchor : Declaration) :
    (∀ sites, ⟨caller, sites⟩ ∉ workspace.incomingCalls anchor) ↔
      workspace.callSites caller anchor.name = [] := by
  constructor
  · intro noRecord
    by_contra someSite
    exact noRecord _ (mem_incomingCalls.2 ⟨member, someSite, rfl⟩)
  · intro nothing sites recorded
    obtain ⟨_, someSite, sitesEq⟩ := mem_incomingCalls.1 recorded
    exact someSite (sitesEq.symm.trans nothing)

theorem not_mem_outgoingCalls_iff
    (known : name ∈ workspace.index.allFunctions.map Declaration.name) :
    (∀ call ∈ workspace.outgoingCalls caller, call.symbol.name ≠ name) ↔
      workspace.callSites caller name = [] := by
  constructor
  · intro noRecord
    by_contra someSite
    obtain ⟨declaration, member, rfl⟩ := List.mem_map.1 known
    obtain ⟨target, found⟩ := exists_findByName? member
    have targetName := name_of_findByName? found
    refine noRecord ⟨target, workspace.callSites caller declaration.name⟩ ?_ targetName
    rw [mem_outgoingCalls, targetName]
    exact ⟨found, someSite, rfl⟩
  · rintro nothing call recorded rfl
    obtain ⟨_, someSite, sitesEq⟩ := mem_outgoingCalls.1 recorded
    exact someSite (sitesEq.symm.trans nothing)

end Indexed

end Workspace

/-- In every reachable workspace over documents whose lines and columns can be counted, the sites
recorded for a declared name in the body of an indexed declaration, among the calls into the name as
among the calls out of the body, are the copies of the name taken from the left without overlap; and
in both directions nothing is recorded exactly when the name does not occur in the body. -/
theorem recorded_sites_sound_and_complete
    {keyword : Keyword} {workspace : Workspace}
    (reachable : Workspace.Reachable keyword workspace)
    (fits : ∀ tree ∈ workspace.index.trees, Text.FitsPositions tree.document.text)
    {tree : SyntaxTree} (indexed : tree ∈ workspace.index.trees)
    {caller : Declaration} (declared : caller ∈ tree.declarations)
    {name : Text} (known : name ∈ workspace.index.allFunctions.map Declaration.name) :
    (∀ anchor sites, anchor.name = name → ⟨caller, sites⟩ ∈ workspace.incomingCalls anchor →
      GreedySites tree caller name sites) ∧
      (∀ call ∈ workspace.outgoingCalls caller, call.symbol.name = name →
        GreedySites tree caller name call.sites) ∧
      (∀ anchor, anchor.name = name →
        ((∀ sites, ⟨caller, sites⟩ ∉ workspace.incomingCalls anchor) ↔
          ¬ name <:+: tree.bodyText caller)) ∧
      ((∀ call ∈ workspace.outgoingCalls caller, call.symbol.name ≠ name) ↔
        ¬ name <:+: tree.bodyText caller) := by
  have wellFormed := reachable.wellFormed
  have named : IsName name := wellFormed.isName known
  have greedy := wellFormed.greedySites indexed (fits tree indexed) declared named
  have member : caller ∈ workspace.index.allFunctions :=
    List.mem_flatMap.2 ⟨tree, indexed, declared⟩
  have nothing : workspace.callSites caller name = [] ↔ ¬ name <:+: tree.bodyText caller := by
    rw [wellFormed.callSites_eq indexed declared]
    exact callSites_eq_nil_iff named.nonempty tree caller
  refine ⟨?_, ?_, ?_, ?_⟩
  · rintro anchor sites rfl recorded
    obtain ⟨_, _, sitesEq⟩ := Workspace.mem_incomingCalls.1 recorded
    dsimp only at sitesEq
    rw [← sitesEq]
    exact greedy
  · rintro call recorded rfl
    obtain ⟨_, _, sitesEq⟩ := Workspace.mem_outgoingCalls.1 recorded
    rw [← sitesEq]
    exact greedy
  · rintro anchor rfl
    exact (Workspace.not_mem_incomingCalls_iff member anchor).trans nothing
  · exact (Workspace.not_mem_outgoingCalls_iff known).trans nothing

/-- A document in which `g` occurs behind a character of two units, in a line that ends with a
carriage return, and next to itself. -/
def overlappingCopies : Snapshot :=
  { uri := ⟨['a'], Eq.refl true⟩
    languageId := []
    version := 1
    text := "f gg \x7b\r\n\t𝄞ggg gg\r\n\x7d\nf h \x7b\n g\n\x7d".toList }

theorem overlappingCopies_sites_sound_and_complete :
    let keyword : Keyword := ⟨['f'], by decide⟩
    let tree := SyntaxTree.parse keyword ⟨0⟩ overlappingCopies
    let workspace : Workspace :=
      ⟨(SyntaxIndex.empty keyword).run [.ensureTree overlappingCopies], []⟩
    let caller := Declaration.ofBlock keyword overlappingCopies.uri ⟨0⟩ ⟨['g', 'g'], 0, 2⟩
    let other := Declaration.ofBlock keyword overlappingCopies.uri ⟨0⟩ ⟨['h'], 3, 5⟩
    Workspace.Reachable keyword workspace ∧
      (∀ indexed ∈ workspace.index.trees, Text.FitsPositions indexed.document.text) ∧
      tree ∈ workspace.index.trees ∧ caller ∈ tree.declarations ∧ other ∈ tree.declarations ∧
      (tree.callSites caller ['g', 'g']).length = 2 ∧
      ⟨caller, tree.callSites caller ['g', 'g']⟩ ∈ workspace.incomingCalls caller ∧
      GreedySites tree caller ['g', 'g'] (tree.callSites caller ['g', 'g']) ∧
      ∀ sites, ⟨other, sites⟩ ∉ workspace.incomingCalls caller := by
  intro keyword tree workspace caller other
  have reachable : Workspace.Reachable keyword workspace :=
    Workspace.reachable_run keyword [.ensureTree overlappingCopies]
  have alone : workspace.index.trees = [tree] := by decide +kernel
  have indexed : tree ∈ workspace.index.trees := by
    rw [alone]
    exact List.mem_singleton_self tree
  have fits : ∀ indexed ∈ workspace.index.trees, Text.FitsPositions indexed.document.text := by
    rw [alone, List.forall_mem_singleton]
    exact ⟨by decide +kernel, by decide +kernel⟩
  have declared : caller ∈ tree.declarations := by decide +kernel
  have otherDeclared : other ∈ tree.declarations := by decide +kernel
  have known : ['g', 'g'] ∈ workspace.index.allFunctions.map Declaration.name := by
    decide +kernel
  have recorded :
      ⟨caller, tree.callSites caller ['g', 'g']⟩ ∈ workspace.incomingCalls caller := by
    decide +kernel
  have absent : ¬ ['g', 'g'] <:+: tree.bodyText other := by decide +kernel
  exact ⟨reachable, fits, indexed, declared, otherDeclared, by decide +kernel, recorded,
    (recorded_sites_sound_and_complete reachable fits indexed declared known).1 caller _ rfl
      recorded,
    ((recorded_sites_sound_and_complete reachable fits indexed otherDeclared known).2.2.1 caller
      rfl).2 absent⟩

end CallHierarchy
