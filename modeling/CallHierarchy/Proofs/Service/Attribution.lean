import CallHierarchy.Proofs.Engine.Accounting
import CallHierarchy.Service.Referenced

/-!
To whom references are attributed. The references in reading order fall into stretches, in each of
which the symbols around the references have one range. A stretch is reported as one call, from the
symbol around the reference that opens it; within one document that is the symbol around each of
its references, but a stretch may go on in the next document.
-/

namespace CallHierarchy.Delegation

open Operation References

variable {outlines : Uri → List Symbol}

/-- The reference that opens the stretch in which a reference stands, `earlier` being what was read
before. -/
def Opens (outlines : Uri → List Symbol) (earlier : List Location) (location opening : Location) :
    Prop :=
  ∃ before between,
    earlier ++ [location] = before ++ opening :: between ∧
      (∀ site ∈ opening :: between,
        enclosingRange? outlines site = enclosingRange? outlines location) ∧
      ∀ last ∈ before.getLast?,
        enclosingRange? outlines last ≠ enclosingRange? outlines location

theorem Opens.range_eq
    {earlier : List Location} {location opening : Location}
    (opens : Opens outlines earlier location opening) :
    enclosingRange? outlines opening = enclosingRange? outlines location := by
  obtain ⟨_, _, _, same, _⟩ := opens
  exact same opening List.mem_cons_self

theorem Opens.mem
    {earlier : List Location} {location opening : Location}
    (opens : Opens outlines earlier location opening) :
    opening ∈ earlier ++ [location] := by
  obtain ⟨before, between, split, _, _⟩ := opens
  rw [split]
  exact List.mem_append_right before List.mem_cons_self

/-- A reference in a symbol of the same range goes on with the stretch. -/
theorem Opens.concat
    {earlier : List Location} {location opening next : Location}
    (opens : Opens outlines earlier location opening)
    (same : enclosingRange? outlines location = enclosingRange? outlines next) :
    Opens outlines (earlier ++ [location]) next opening := by
  obtain ⟨before, between, split, sameBetween, apart⟩ := opens
  refine ⟨before, between ++ [next], ?_, ?_, ?_⟩
  · rw [split, List.append_assoc, List.cons_append]
  · intro site member
    rw [← List.cons_append, List.mem_append, List.mem_singleton] at member
    rcases member with inStretch | rfl
    · rw [sameBetween site inStretch, same]
    · rfl
  · intro last isLast
    rw [← same]
    exact apart last isLast

theorem opens_self_nil (location : Location) : Opens outlines [] location location := by
  refine ⟨[], [], rfl, ?_, by simp⟩
  intro site isLocation
  rw [List.mem_singleton.1 isLocation]

theorem opens_self_concat
    (earlier : List Location) {location next : Location}
    (different : enclosingRange? outlines location ≠ enclosingRange? outlines next) :
    Opens outlines (earlier ++ [location]) next next := by
  refine ⟨earlier ++ [location], [], rfl, ?_, ?_⟩
  · intro site isNext
    rw [List.mem_singleton.1 isNext]
  · intro last isLast
    rw [List.getLast?_concat, Option.mem_some_iff] at isLast
    rwa [← isLast]

theorem exists_enclosing
    {location : Location} (resolved : isResolved outlines location = true) :
    ∃ owner, Symbol.enclosing? (outlines location.uri) location.range.start = some owner := by
  obtain ⟨_, rangeEq⟩ := Option.isSome_iff_exists.1 resolved
  obtain ⟨owner, enclosed, _⟩ := Option.map_eq_some_iff.1 rangeEq
  exact ⟨owner, enclosed⟩

theorem filterMap_resolvedCall?_concat
    (earlier : List Location) {location : Location} {owner : Symbol}
    (enclosed : Symbol.enclosing? (outlines location.uri) location.range.start = some owner) :
    (earlier ++ [location]).filterMap (resolvedCall? outlines) =
      earlier.filterMap (resolvedCall? outlines) ++ [⟨⟨location.uri, owner⟩, [location]⟩] := by
  have callEq : resolvedCall? outlines location =
      some ⟨⟨location.uri, owner⟩, [location]⟩ := by
    rw [resolvedCall?, enclosed, Option.map_some]
  rw [List.filterMap_append, List.filterMap_cons_some callEq, List.filterMap_nil]

/-- After a reference has been merged, the last call is from the symbol around the reference that
opens its stretch. -/
theorem exists_opening
    {earlier : List Location} {location : Location}
    (resolved : ∀ site ∈ earlier ++ [location], isResolved outlines site = true) :
    ∃ opening owner sites kept,
      Opens outlines earlier location opening ∧
      Symbol.enclosing? (outlines opening.uri) opening.range.start = some owner ∧
      ((earlier ++ [location]).filterMap (resolvedCall? outlines)).foldl merge [] =
        ⟨⟨opening.uri, owner⟩, sites⟩ :: kept ∧
      location ∈ sites := by
  induction earlier using List.reverseRecOn generalizing location with
  | nil =>
      obtain ⟨owner, enclosed⟩ := exists_enclosing (resolved location List.mem_cons_self)
      refine ⟨location, owner, [location], [], opens_self_nil location, enclosed, ?_, ?_⟩
      · rw [filterMap_resolvedCall?_concat [] enclosed]
        rfl
      · exact List.mem_singleton_self location
  | append_singleton before last inductionHypothesis =>
      have resolvedBefore : ∀ site ∈ before ++ [last], isResolved outlines site = true :=
        fun site member => resolved site (List.mem_append_left _ member)
      obtain ⟨opening, owner, sites, kept, opens, enclosed, merged, _⟩ :=
        inductionHypothesis resolvedBefore
      obtain ⟨symbol, symbolEnclosed⟩ :=
        exists_enclosing (resolved location (List.mem_append_right _ List.mem_cons_self))
      have lastRange : enclosingRange? outlines last = some owner.range := by
        rw [← opens.range_eq, enclosingRange?, enclosed, Option.map_some]
      have ownRange : enclosingRange? outlines location = some symbol.range := by
        rw [enclosingRange?, symbolEnclosed, Option.map_some]
      rw [filterMap_resolvedCall?_concat _ symbolEnclosed, List.foldl_concat, merged]
      by_cases sameRange : owner.range = symbol.range
      · have same : enclosingRange? outlines last = enclosingRange? outlines location := by
          rw [lastRange, ownRange, sameRange]
        refine ⟨opening, owner, sites ++ [location], kept, opens.concat same, enclosed, ?_, ?_⟩
        · exact if_pos sameRange
        · exact List.mem_append_right sites (List.mem_singleton_self location)
      · have different : enclosingRange? outlines last ≠ enclosingRange? outlines location := by
          rwa [lastRange, ownRange, ne_eq, Option.some_inj]
        refine ⟨location, symbol, [location], ⟨⟨opening.uri, owner⟩, sites⟩ :: kept,
          opens_self_concat before different, symbolEnclosed, ?_, List.mem_singleton_self location⟩
        exact if_neg sameRange

/-- A call that is kept stays, and only gets more sites. -/
theorem exists_merged
    {kept : List (Call ResolvedSymbol)} {entry : Call ResolvedSymbol} (member : entry ∈ kept)
    (call : Call ResolvedSymbol) :
    ∃ grown ∈ merge kept call, grown.symbol = entry.symbol ∧ entry.sites ⊆ grown.sites := by
  cases kept with
  | nil => cases member
  | cons last earlier =>
      rw [merge]
      split
      · rcases List.mem_cons.1 member with rfl | isEarlier
        · exact ⟨_, List.mem_cons_self, rfl, List.subset_append_left _ _⟩
        · exact ⟨entry, List.mem_cons_of_mem _ isEarlier, rfl, List.Subset.refl _⟩
      · exact ⟨entry, List.mem_cons_of_mem _ member, rfl, List.Subset.refl _⟩

theorem exists_foldl_merged
    {kept : List (Call ResolvedSymbol)} {entry : Call ResolvedSymbol} (member : entry ∈ kept)
    (calls : List (Call ResolvedSymbol)) :
    ∃ grown ∈ calls.foldl merge kept,
      grown.symbol = entry.symbol ∧ entry.sites ⊆ grown.sites := by
  induction calls generalizing kept entry with
  | nil => exact ⟨entry, member, rfl, List.Subset.refl _⟩
  | cons call rest inductionHypothesis =>
      obtain ⟨next, nextMember, nextSymbol, nextSites⟩ := exists_merged member call
      obtain ⟨grown, grownMember, grownSymbol, grownSites⟩ := inductionHypothesis nextMember
      exact ⟨grown, grownMember, grownSymbol.trans nextSymbol,
        List.Subset.trans nextSites grownSites⟩

/-- Every resolved reference is in a call from the symbol around the one that opens its stretch. -/
theorem exists_call_of_split
    {locations earlier later : List Location} {location : Location}
    (split : locations.filter (isResolved outlines) = earlier ++ location :: later) :
    ∃ opening owner,
      Opens outlines earlier location opening ∧
      Symbol.enclosing? (outlines opening.uri) opening.range.start = some owner ∧
      ∃ call ∈ mergeNeighbours (locations.filterMap (resolvedCall? outlines)),
        call.symbol = ⟨opening.uri, owner⟩ ∧ location ∈ call.sites := by
  have resolved : ∀ site ∈ earlier ++ [location], isResolved outlines site = true := by
    intro site member
    have inFilter : site ∈ locations.filter (isResolved outlines) := by
      rw [split, List.append_cons]
      exact List.mem_append_left later member
    exact (List.mem_filter.1 inFilter).2
  obtain ⟨opening, owner, sites, kept, opens, enclosed, merged, isSite⟩ := exists_opening resolved
  have kept : (⟨⟨opening.uri, owner⟩, sites⟩ : Call ResolvedSymbol) ∈
      ((earlier ++ [location]).filterMap (resolvedCall? outlines)).foldl merge [] := by
    rw [merged]
    exact List.mem_cons_self
  obtain ⟨call, member, symbolEq, moreSites⟩ :=
    exists_foldl_merged kept (later.filterMap (resolvedCall? outlines))
  refine ⟨opening, owner, opens, enclosed, call, ?_, symbolEq, moreSites isSite⟩
  rw [← filterMap_resolvedCall?_filter, split, List.append_cons, List.filterMap_append,
    mergeNeighbours, List.mem_reverse, List.foldl_append]
  exact member

end CallHierarchy.Delegation

namespace CallHierarchy.ReferencedService

open Operation References Delegation

/-- How the callers of an item take up the references to it. -/
structure Attributed (outlines : Uri → List Symbol) (item : Item) (references : List Location)
    (calls : List ItemCall) : Prop where
  /-- The ranges are, in reading order, those of the references in symbols with another range than
  the item. -/
  ranges : calls.flatMap ItemCall.ranges =
    ((byFile references).filter (isKept outlines item.symbol)).map Location.range
  /-- Such a reference is reported from the symbol around the reference that opens its stretch,
  which is the symbol around the reference itself if both are in one document. -/
  callers : ∀ earlier location later symbol,
    (byFile references).filter (isResolved outlines) = earlier ++ location :: later →
    Symbol.enclosing? (outlines location.uri) location.range.start = some symbol →
    symbol.range ≠ item.range →
      ∃ opening owner,
        Opens outlines earlier location opening ∧
        Symbol.enclosing? (outlines opening.uri) opening.range.start = some owner ∧
        (opening.uri = location.uri → owner = symbol) ∧
        ∃ call ∈ calls, call.item = (ResolvedSymbol.mk opening.uri owner).item ∧
          location.range ∈ call.ranges
  /-- So it is reported from the symbol around it unless a reference in another document is in a
  symbol with the same range. -/
  own : ∀ location ∈ references, ∀ symbol,
    Symbol.enclosing? (outlines location.uri) location.range.start = some symbol →
    symbol.range ≠ item.range →
    (∀ other ∈ references, enclosingRange? outlines other = some symbol.range →
      other.uri = location.uri) →
      ∃ call ∈ calls, call.item = (ResolvedSymbol.mk location.uri symbol).item ∧
        location.range ∈ call.ranges
  /-- Every range that is reported is that of a reference in a symbol with the caller's range, and
  the first one is in the caller's document. -/
  reported : ∀ call ∈ calls, ∃ first others,
    call.ranges = (first :: others).map Location.range ∧ call.item.uri = first.uri ∧
      ∀ site ∈ first :: others, site ∈ references ∧
        enclosingRange? outlines site = some call.item.range

theorem mem_byFile
    {references : List Location} {location : Location} :
    location ∈ byFile references ↔ location ∈ references := by
  rw [← inReadingOrder_eq_byFile]
  exact mem_inReadingOrder

section Callers

variable (outlines : Uri → List Symbol) (item : Item) (references : List Location)

/-- The callers of an item, as a function of the host's answers. -/
def callersOf : List ItemCall :=
  (withoutAnchor item.symbol (mergeNeighbours
    ((byFile references).filterMap (resolvedCall? outlines)))).map
      fun call => call.toItemCall ResolvedSymbol.item

theorem ranges_callersOf :
    (callersOf outlines item references).flatMap ItemCall.ranges =
      ((byFile references).filter (isKept outlines item.symbol)).map Location.range := by
  have accounts : AccountsFor outlines item.symbol references _ :=
    accountsFor_withoutAnchor item.symbol references
  rw [← accounts.sites, List.map_flatMap, callersOf, List.flatMap_map]
  rfl

theorem reported_callersOf
    {call : ItemCall} (member : call ∈ callersOf outlines item references) :
    ∃ first others,
      call.ranges = (first :: others).map Location.range ∧ call.item.uri = first.uri ∧
        ∀ site ∈ first :: others, site ∈ references ∧
          enclosingRange? outlines site = some call.item.range := by
  obtain ⟨found, foundMember, rfl⟩ := List.mem_map.1 member
  have accounts : AccountsFor outlines item.symbol references _ :=
    accountsFor_withoutAnchor item.symbol references
  have fromSites := accounts.callers found foundMember
  obtain ⟨first, others, sitesEq, uriEq, _⟩ := fromSites.first
  refine ⟨first, others, congrArg (List.map Location.range) sitesEq, uriEq, ?_⟩
  intro site isSite
  rw [← sitesEq] at isSite
  have inOrder : site ∈ (byFile references).filter (isKept outlines item.symbol) := by
    rw [← accounts.sites]
    exact List.mem_flatMap_of_mem foundMember isSite
  exact ⟨mem_byFile.1 (List.mem_filter.1 inOrder).1, fromSites.ranges site isSite⟩

theorem exists_caller
    {earlier later : List Location} {location : Location} {symbol : Symbol}
    (split : (byFile references).filter (isResolved outlines) = earlier ++ location :: later)
    (enclosed : Symbol.enclosing? (outlines location.uri) location.range.start = some symbol)
    (otherRange : symbol.range ≠ item.range) :
    ∃ opening owner,
      Opens outlines earlier location opening ∧
      Symbol.enclosing? (outlines opening.uri) opening.range.start = some owner ∧
      (opening.uri = location.uri → owner = symbol) ∧
      ∃ call ∈ callersOf outlines item references,
        call.item = (ResolvedSymbol.mk opening.uri owner).item ∧ location.range ∈ call.ranges := by
  obtain ⟨opening, owner, opens, ownerEnclosed, call, member, symbolEq, isSite⟩ :=
    exists_call_of_split split
  have sameRange : owner.range = symbol.range := by
    have ranges := opens.range_eq
    rw [enclosingRange?, enclosingRange?, ownerEnclosed, enclosed] at ranges
    exact Option.some.inj ranges
  refine ⟨opening, owner, opens, ownerEnclosed, ?_, call.toItemCall ResolvedSymbol.item, ?_, ?_, ?_⟩
  · intro sameUri
    rw [sameUri] at ownerEnclosed
    exact Symbol.eq_of_enclosing?_range_eq ownerEnclosed enclosed sameRange
  · refine List.mem_map_of_mem (List.mem_filter.2 ⟨member, ?_⟩)
    rw [decide_eq_true_eq, symbolEq]
    exact fun sameAsItem => otherRange (sameRange.symm.trans sameAsItem)
  · rw [← symbolEq]
    rfl
  · exact List.mem_map_of_mem isSite

theorem attributed_callersOf :
    Attributed outlines item references (callersOf outlines item references) where
  ranges := ranges_callersOf outlines item references
  callers earlier location later symbol := exists_caller outlines item references
  own := by
    intro location member symbol enclosed otherRange alone
    have resolved : isResolved outlines location = true := by
      rw [isResolved, enclosingRange?, enclosed]
      rfl
    obtain ⟨earlier, later, split⟩ :=
      List.append_of_mem (List.mem_filter.2 ⟨mem_byFile.2 member, resolved⟩)
    obtain ⟨opening, owner, opens, _, sameOwner, call, callMember, itemEq, isRange⟩ :=
      exists_caller outlines item references split enclosed otherRange
    have openingListed : opening ∈ references := by
      have inOrder : opening ∈ (byFile references).filter (isResolved outlines) := by
        rw [split, List.append_cons]
        exact List.mem_append_left later opens.mem
      exact mem_byFile.1 (List.mem_filter.1 inOrder).1
    have openingRange : enclosingRange? outlines opening = some symbol.range := by
      rw [opens.range_eq, enclosingRange?, enclosed, Option.map_some]
    have sameUri := alone opening openingListed openingRange
    rw [sameOwner sameUri, sameUri] at itemEq
    exact ⟨call, callMember, itemEq, isRange⟩
  reported call := reported_callersOf outlines item references

end Callers

/-- Let a host list references to an item and answer with the outlines of their documents. Then the
callers of the item are reported, and take up the references. -/
theorem incomingCalls_attribute_references
    {host : Host} {item : Item} {references : List Location} {outlines : Uri → List Symbol}
    (listed : host.references item.uri item.selectionRange.start = .ok references)
    (answered : ∀ location ∈ references,
      host.documentSymbols location.uri = .ok (outlines location.uri))
    (run : Run QueryLog) :
    ∃ calls after,
      perform (incomingCalls host item) run = (.ok calls, after) ∧
        Attributed outlines item references calls := by
  have answeredInOrder : ∀ location ∈ inReadingOrder references,
      host.documentSymbols location.uri = .ok (outlines location.uri) :=
    fun location member => answered location (mem_inReadingOrder.1 member)
  obtain ⟨after, performed⟩ :=
    perform_incomingCalls item.symbol outlines listed answeredInOrder run
  rw [inReadingOrder_eq_byFile] at performed
  refine ⟨callersOf outlines item references, after, ?_, attributed_callersOf _ _ _⟩
  rw [incomingCalls, perform_bind_of_ok performed]
  rfl

/-- Three documents: the functions of the first two have the same range. -/
def scatteredOutlines (uri : Uri) : List Symbol :=
  if uri.text = ['a'] then [linesSymbol 's' 2 4 []]
  else if uri.text = ['b'] then [linesSymbol 't' 2 4 []]
  else [linesSymbol 'u' 0 1 [], linesSymbol 'v' 6 9 []]

def scatteredReferences : List Location :=
  [⟨⟨['a'], Eq.refl true⟩, .onLine 3 1 2⟩, ⟨⟨['b'], Eq.refl true⟩, .onLine 3 4 5⟩,
    ⟨⟨['c'], Eq.refl true⟩, .onLine 0 1 2⟩, ⟨⟨['c'], Eq.refl true⟩, .onLine 7 1 2⟩]

def scatteredHost : Host :=
  { definitions := fun _ _ => .ok []
    references := fun _ _ => .ok scatteredReferences
    documentSymbols := fun uri => .ok (scatteredOutlines uri) }

/-- An item of a fourth document, with the range of the third function. -/
def scatteredItem : Item :=
  (ResolvedSymbol.mk ⟨['d'], Eq.refl true⟩ (linesSymbol 'f' 0 1 [])).item

/-- What is reported: the second function's reference is with the first function, the third
function has the range of the item. -/
def scatteredCalls : List ItemCall :=
  [⟨(ResolvedSymbol.mk ⟨['a'], Eq.refl true⟩ (linesSymbol 's' 2 4 [])).item,
      [.onLine 3 1 2, .onLine 3 4 5]⟩,
    ⟨(ResolvedSymbol.mk ⟨['c'], Eq.refl true⟩ (linesSymbol 'v' 6 9 [])).item, [.onLine 7 1 2]⟩]

theorem scatteredHost_attributes_references :
    scatteredHost.references scatteredItem.uri scatteredItem.selectionRange.start =
      .ok scatteredReferences ∧
    (∀ location ∈ scatteredReferences,
      scatteredHost.documentSymbols location.uri = .ok (scatteredOutlines location.uri)) ∧
    (perform (incomingCalls scatteredHost scatteredItem) (.start [] false)).1 =
      .ok scatteredCalls ∧
    ∃ calls after,
      perform (incomingCalls scatteredHost scatteredItem) (.start [] false) = (.ok calls, after) ∧
        Attributed scatteredOutlines scatteredItem scatteredReferences calls := by
  have listed : scatteredHost.references scatteredItem.uri scatteredItem.selectionRange.start =
      .ok scatteredReferences := rfl
  have answered : ∀ location ∈ scatteredReferences,
      scatteredHost.documentSymbols location.uri = .ok (scatteredOutlines location.uri) :=
    fun _ _ => rfl
  exact ⟨listed, answered, rfl,
    incomingCalls_attribute_references listed answered (.start [] false)⟩

/-- Functions of different documents are not told apart by their ranges: a reference in one need not
be reported from it, and a range that is reported need not be one of the caller's document. -/
theorem one_range_in_two_documents_is_not_told_apart :
    (perform (incomingCalls scatteredHost scatteredItem) (.start [] false)).1 =
      .ok scatteredCalls ∧
    (¬∀ location ∈ scatteredReferences, ∀ symbol,
      Symbol.enclosing? (scatteredOutlines location.uri) location.range.start = some symbol →
      location.uri ≠ scatteredItem.uri ∨ symbol.range ≠ scatteredItem.range →
        ∃ call ∈ scatteredCalls, call.item = (ResolvedSymbol.mk location.uri symbol).item ∧
          location.range ∈ call.ranges) ∧
    ¬∀ call ∈ scatteredCalls, ∀ range ∈ call.ranges, ∃ location ∈ scatteredReferences,
      location.uri = call.item.uri ∧ location.range = range := by
  refine ⟨rfl, ?_, by decide⟩
  intro everyReference
  have reported := everyReference ⟨⟨['b'], by decide⟩, .onLine 3 4 5⟩ (by decide)
    (linesSymbol 't' 2 4 []) rfl (by decide)
  revert reported
  decide

end CallHierarchy.ReferencedService
