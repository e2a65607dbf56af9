import CallHierarchy.Proofs.Engine.Delegation
import CallHierarchy.Proofs.Engine.ReadingOrder
import CallHierarchy.Proofs.Engine.Sites
import CallHierarchy.Proofs.Engine.Symmetry
import CallHierarchy.Proofs.Outline.Enclosing

/-!
Searching bodies and asking a host about one document. A host that knows the outline of the
document and lists, in any order, the sites that the search of bodies finds, leads to the callers
that the search finds: the same functions in the same order with the same sites, except that a
symbol's references to itself are left out.
-/

namespace CallHierarchy

namespace Range

theorem lines_of_contains
    {range : Range} {position : Position} (inside : range.contains position = true) :
    range.start.line ≤ position.line ∧ position.line ≤ range.finish.line := by
  simp only [contains, Position.atOrBefore, Bool.and_eq_true, Bool.or_eq_true,
    decide_eq_true_eq, beq_iff_eq] at inside
  omega

theorem contains_of_lines
    {range : Range} {position : Position}
    (below : range.start.line < position.line) (above : position.line < range.finish.line) :
    range.contains position = true := by
  simp [contains, Position.atOrBefore, below, above]

end Range

namespace Symbol

theorem enclosingFrom_of_outside
    {position : Position} {declarations : List Declaration}
    (outside : ∀ declaration ∈ declarations,
      declaration.fullRange.contains position = false)
    (best : Option Symbol) :
    enclosingFrom position (declarations.map Declaration.symbol) best = best := by
  induction declarations with
  | nil => simp [enclosingFrom]
  | cons first rest inductionHypothesis =>
      have skipped : enclosingStep position first.symbol best = best := by
        have firstOutside := outside first List.mem_cons_self
        simp [Declaration.symbol, enclosingStep, firstOutside]
      rw [List.map_cons, enclosingFrom, skipped]
      exact inductionHypothesis fun declaration member =>
        outside declaration (List.mem_cons_of_mem first member)

/-- A position between the first and the last line of a declaration is enclosed by it alone. -/
theorem enclosing?_outline_parse
    {keyword : Keyword} {id : TreeId} {document : Snapshot} {declaration : Declaration}
    (declared : declaration ∈ (SyntaxTree.parse keyword id document).declarations)
    {position : Position}
    (below : declaration.fullRange.start.line < position.line)
    (above : position.line < declaration.fullRange.finish.line) :
    enclosing? (SyntaxTree.parse keyword id document).outline position =
      some declaration.symbol := by
  have ordered := SyntaxTree.pairwise_declarations_parse keyword id document
  obtain ⟨earlier, later, split⟩ := List.append_of_mem declared
  rw [split] at ordered
  obtain ⟨_, laterOrdered, earlierBefore⟩ := List.pairwise_append.1 ordered
  obtain ⟨beforeLater, _⟩ := List.pairwise_cons.1 laterOrdered
  have earlierOutside : ∀ other ∈ earlier, other.fullRange.contains position = false := by
    intro other member
    have apart := earlierBefore other member declaration List.mem_cons_self
    rw [Bool.eq_false_iff]
    intro inside
    have lines := Range.lines_of_contains inside
    omega
  have laterOutside : ∀ other ∈ later, other.fullRange.contains position = false := by
    intro other member
    have apart := beforeLater other member
    rw [Bool.eq_false_iff]
    intro inside
    have lines := Range.lines_of_contains inside
    omega
  have taken : enclosingStep position declaration.symbol none = some declaration.symbol := by
    have inside := Range.contains_of_lines below above
    have notVariable : KindCode.function ≠ KindCode.variableKind := by decide
    simp [Declaration.symbol, enclosingStep, enclosingChildren, inside, notVariable]
  rw [enclosing?, SyntaxTree.outline, split, List.map_append, List.map_cons,
    enclosingFrom_append, enclosingFrom_of_outside earlierOutside, enclosingFrom, taken,
    enclosingFrom_of_outside laterOutside]

end Symbol

section SingleDocument

variable {keyword : Keyword} {workspace : Workspace} {id : TreeId} {document : Snapshot}
  {anchor : Declaration}

theorem allFunctions_of_alone
    (alone : workspace.index.trees = [SyntaxTree.parse keyword id document]) :
    workspace.index.allFunctions = (SyntaxTree.parse keyword id document).declarations := by
  rw [SyntaxIndex.allFunctions, alone, List.flatMap_singleton]

theorem caller_of_mem
    (wellFormed : workspace.WellFormed)
    (alone : workspace.index.trees = [SyntaxTree.parse keyword id document])
    {call : Call Declaration} (member : call ∈ workspace.incomingCalls anchor) :
    call.symbol ∈ (SyntaxTree.parse keyword id document).declarations ∧ call.sites ≠ [] ∧
      call.sites =
        (SyntaxTree.parse keyword id document).callSites call.symbol anchor.name := by
  obtain ⟨indexed, someSite, sitesEq⟩ := Workspace.mem_incomingCalls.1 member
  rw [allFunctions_of_alone alone] at indexed
  have live : SyntaxTree.parse keyword id document ∈ workspace.liveTrees := by
    apply Workspace.mem_liveTrees_of_indexed
    rw [alone]
    exact List.mem_singleton_self _
  have treeEq := wellFormed.treeOf?_eq live indexed
  rw [Workspace.callSites, treeEq] at sitesEq
  exact ⟨indexed, someSite, sitesEq.symm⟩

/-- Callers in one document come in the order of their lines, and do not overlap. -/
theorem pairwise_callers
    (alone : workspace.index.trees = [SyntaxTree.parse keyword id document]) :
    (workspace.incomingCalls anchor).Pairwise fun left right =>
      left.symbol.fullRange.finish.line < right.symbol.fullRange.start.line := by
  rw [Workspace.incomingCalls, allFunctions_of_alone alone, List.pairwise_filterMap]
  refine (SyntaxTree.pairwise_declarations_parse keyword id document).imp ?_
  intro left right before leftCall leftFound rightCall rightFound
  obtain ⟨_, rfl⟩ := Workspace.call?_eq_some.1 leftFound
  obtain ⟨_, rfl⟩ := Workspace.call?_eq_some.1 rightFound
  exact before

theorem site_of_mem_caller
    (wellFormed : workspace.WellFormed)
    (alone : workspace.index.trees = [SyntaxTree.parse keyword id document])
    (fits : Text.FitsPositions document.text) (named : IsName anchor.name)
    {call : Call Declaration} (member : call ∈ workspace.incomingCalls anchor)
    {site : Location} (isSite : site ∈ call.sites) :
    site.uri = document.uri ∧
      call.symbol.fullRange.start.line < site.range.start.line ∧
        site.range.start.line < call.symbol.fullRange.finish.line := by
  obtain ⟨declared, _, sitesEq⟩ := caller_of_mem wellFormed alone member
  rw [sitesEq] at isSite
  exact line_of_mem_callSites fits declared named isSite

/-- The sites of all callers, one caller after the other, come in the order of their positions. -/
theorem pairwise_sites
    (wellFormed : workspace.WellFormed)
    (alone : workspace.index.trees = [SyntaxTree.parse keyword id document])
    (fits : Text.FitsPositions document.text) (named : IsName anchor.name) :
    ((workspace.incomingCalls anchor).flatMap Call.sites).Pairwise fun left right =>
      left.range.start.Before right.range.start := by
  refine List.pairwise_flatMap.2 ⟨?_, ?_⟩
  · intro call member
    obtain ⟨declared, _, sitesEq⟩ := caller_of_mem wellFormed alone member
    rw [sitesEq]
    exact pairwise_callSites fits declared anchor.name
  · refine (pairwise_callers alone).imp_of_mem ?_
    intro left right leftMember rightMember before leftSite leftIsSite rightSite rightIsSite
    have leftLines := site_of_mem_caller wellFormed alone fits named leftMember leftIsSite
    have rightLines := site_of_mem_caller wellFormed alone fits named rightMember rightIsSite
    left
    omega

/-- The same call with the caller given by its entry in the outline. -/
def outlinedCall (uri : Uri) (call : Call Declaration) : Call ResolvedSymbol :=
  ⟨⟨uri, call.symbol.symbol⟩, call.sites⟩

/-- The references, one by one, resolve to the callers that they were found in. -/
theorem filterMap_resolvedCall?_sites
    (wellFormed : workspace.WellFormed)
    (alone : workspace.index.trees = [SyntaxTree.parse keyword id document])
    (fits : Text.FitsPositions document.text) (named : IsName anchor.name) :
    ((workspace.incomingCalls anchor).flatMap Call.sites).filterMap
        (Delegation.resolvedCall? fun _ => (SyntaxTree.parse keyword id document).outline) =
      ((workspace.incomingCalls anchor).map (outlinedCall document.uri)).flatMap
        Delegation.singleCalls := by
  have resolvedOne : ∀ call ∈ workspace.incomingCalls anchor,
      call.sites.filterMap
          (Delegation.resolvedCall? fun _ => (SyntaxTree.parse keyword id document).outline) =
        Delegation.singleCalls (outlinedCall document.uri call) := by
    intro call member
    have declared := (caller_of_mem wellFormed alone member).1
    have resolvedSite : ∀ site ∈ call.sites,
        Delegation.resolvedCall?
            (fun _ => (SyntaxTree.parse keyword id document).outline) site =
          some ⟨⟨document.uri, call.symbol.symbol⟩, [site]⟩ := by
      intro site isSite
      obtain ⟨uriEq, below, above⟩ :=
        site_of_mem_caller wellFormed alone fits named member isSite
      rw [Delegation.resolvedCall?, Symbol.enclosing?_outline_parse declared below above,
        Option.map_some, uriEq]
    rw [List.filterMap_congr resolvedSite]
    exact congrFun List.filterMap_eq_map' _
  rw [List.filterMap_flatMap, List.flatMap_map]
  exact List.flatMap_congr resolvedOne

theorem pairwise_range_outlinedCall
    (wellFormed : workspace.WellFormed)
    (alone : workspace.index.trees = [SyntaxTree.parse keyword id document]) :
    ((workspace.incomingCalls anchor).map (outlinedCall document.uri)).Pairwise
      fun left right => left.symbol.range ≠ right.symbol.range := by
  rw [List.pairwise_map]
  refine (pairwise_callers alone).imp_of_mem ?_
  intro left right leftMember _ before sameRange
  have opens := SyntaxTree.line_lt_of_mem_parse (caller_of_mem wellFormed alone leftMember).1
  have rangesEq : left.symbol.fullRange = right.symbol.fullRange := sameRange
  rw [← rangesEq] at before
  omega

theorem withoutAnchor_outlinedCall
    (wellFormed : workspace.WellFormed)
    (alone : workspace.index.trees = [SyntaxTree.parse keyword id document])
    (declared : anchor ∈ (SyntaxTree.parse keyword id document).declarations) :
    Delegation.withoutAnchor ⟨document.uri, anchor.symbol⟩
        ((workspace.incomingCalls anchor).map (outlinedCall document.uri)) =
      ((workspace.incomingCalls anchor).filter fun call => call.symbol ≠ anchor).map
        (outlinedCall document.uri) := by
  rw [Delegation.withoutAnchor, List.filter_map]
  congr 1
  apply List.filter_congr
  intro call member
  have callerDeclared := (caller_of_mem wellFormed alone member).1
  rw [Function.comp_apply, decide_eq_decide]
  constructor
  · intro otherRange sameSymbol
    exact otherRange (congrArg Declaration.fullRange sameSymbol)
  · intro otherSymbol sameRange
    exact otherSymbol (SyntaxTree.eq_of_fullRange_eq callerDeclared declared sameRange)

end SingleDocument

/-- Let an index hold one document, and let a host answer with the outline of its tree and, for a
declaration's name, with the sites of the declaration's callers in any order. Then the host's
callers of the declaration are the callers found in the bodies, in their order and with their
sites, less the declaration itself. -/
theorem delegated_incomingCalls_eq_direct
    {keyword : Keyword} {workspace : Workspace} {id : TreeId} {document : Snapshot}
    (reachable : Workspace.Reachable keyword workspace)
    (alone : workspace.index.trees = [SyntaxTree.parse keyword id document])
    (fits : Text.FitsPositions document.text)
    {anchor : Declaration}
    (declared : anchor ∈ (SyntaxTree.parse keyword id document).declarations)
    {host : Host} {references : List Location}
    (outlined : host.documentSymbols document.uri =
      .ok (SyntaxTree.parse keyword id document).outline)
    (listed : host.references document.uri anchor.nameRange.start = .ok references)
    (permuted : references.Perm ((workspace.incomingCalls anchor).flatMap Call.sites))
    (run : Run QueryLog) :
    ((Delegation.incomingCalls host ⟨document.uri, anchor.symbol⟩).perform run).1 =
      .ok (((workspace.incomingCalls anchor).filter fun call => call.symbol ≠ anchor).map
        fun call => ⟨⟨document.uri, call.symbol.symbol⟩, call.sites⟩) := by
  have wellFormed := reachable.wellFormed
  have named : IsName anchor.name := SyntaxTree.isName_of_mem_parse declared
  have ownUri : ∀ location ∈ references, location.uri = document.uri := by
    intro location member
    obtain ⟨call, callMember, isSite⟩ := List.mem_flatMap.1 (permuted.mem_iff.1 member)
    exact (site_of_mem_caller wellFormed alone fits named callMember isSite).1
  have readingOrder : References.inReadingOrder references =
      (workspace.incomingCalls anchor).flatMap Call.sites := by
    rw [References.inReadingOrder_of_same_uri ownUri]
    exact References.sortByStart_eq_of_perm
      (pairwise_sites wellFormed alone fits named) permuted
  have answered : ∀ location ∈ References.inReadingOrder references,
      host.documentSymbols location.uri =
        .ok (SyntaxTree.parse keyword id document).outline := by
    intro location member
    rw [readingOrder, ← permuted.mem_iff] at member
    rw [ownUri location member, outlined]
  have someSites : ∀ call ∈ (workspace.incomingCalls anchor).map (outlinedCall document.uri),
      call.sites ≠ [] := by
    intro call member
    obtain ⟨found, foundMember, rfl⟩ := List.mem_map.1 member
    exact (caller_of_mem wellFormed alone foundMember).2.1
  obtain ⟨after, performed⟩ :=
    Delegation.perform_incomingCalls ⟨document.uri, anchor.symbol⟩
      (fun _ => (SyntaxTree.parse keyword id document).outline) listed answered run
  rw [performed, readingOrder, filterMap_resolvedCall?_sites wellFormed alone fits named,
    Delegation.mergeNeighbours_flatMap_singleCalls someSites
      (pairwise_range_outlinedCall wellFormed alone),
    withoutAnchor_outlinedCall wellFormed alone declared]
  rfl

/-- A document in which `g` calls itself behind a character of two units, and is called twice. -/
def selfCallingDocument : Snapshot :=
  { uri := ⟨['a'], Eq.refl true⟩
    languageId := []
    version := 1
    text := "f g \x7b\n\t𝄞g\n\x7d\nf h \x7b\n g\n gg\n\x7d".toList }

/-- The host that knows the outline of the document and lists the sites of `g` backwards. -/
def backwardHost (tree : SyntaxTree) (sites : List Location) : Host :=
  { definitions := fun _ _ => .ok []
    references := fun _ _ => .ok sites.reverse
    documentSymbols := fun _ => .ok tree.outline }

theorem selfCallingDocument_incomingCalls_eq_direct :
    let keyword : Keyword := ⟨['f'], by decide⟩
    let document := selfCallingDocument
    let tree := SyntaxTree.parse keyword ⟨0⟩ document
    let workspace : Workspace :=
      ⟨(SyntaxIndex.empty keyword).run [.ensureTree document], []⟩
    let anchor := Declaration.ofBlock keyword document.uri ⟨0⟩ ⟨['g'], 0, 2⟩
    let calls := workspace.incomingCalls anchor
    let host := backwardHost tree (calls.flatMap Call.sites)
    let run : Run QueryLog := .start [] false
    Workspace.Reachable keyword workspace ∧ workspace.index.trees = [tree] ∧
      Text.FitsPositions document.text ∧ anchor ∈ tree.declarations ∧
      (calls.map fun call => call.sites.length) = [1, 3] ∧
      ((Delegation.incomingCalls host ⟨document.uri, anchor.symbol⟩).perform run).1 =
        .ok ((calls.filter fun call => call.symbol ≠ anchor).map
          fun call => ⟨⟨document.uri, call.symbol.symbol⟩, call.sites⟩) := by
  intro keyword document tree workspace anchor calls host run
  have reachable : Workspace.Reachable keyword workspace :=
    Workspace.reachable_run keyword [.ensureTree document]
  have alone : workspace.index.trees = [tree] := by decide +kernel
  have fits : Text.FitsPositions document.text := ⟨by decide +kernel, by decide +kernel⟩
  have declared : anchor ∈ tree.declarations := by decide +kernel
  have permuted : (calls.flatMap Call.sites).reverse.Perm (calls.flatMap Call.sites) :=
    List.reverse_perm _
  exact ⟨reachable, alone, fits, declared, by decide +kernel,
    delegated_incomingCalls_eq_direct reachable alone fits declared rfl rfl permuted run⟩

end CallHierarchy
