import CallHierarchy.Proofs.Engine.Delegation
import CallHierarchy.Proofs.Engine.ReadingOrder
import CallHierarchy.Proofs.Outline.Enclosing

/-!
Every reference is accounted for. When the host answers, the sites of a symbol's callers are, one
behind the other, the references in reading order, less those outside of any symbol and those in a
symbol with the anchor's range. A caller is the symbol around its first site and contains them all,
and neighbours among the references that some symbol encloses share a call exactly when the symbols
around them have the same range.
-/

namespace CallHierarchy.Delegation

open Operation References

section Outlines

variable (outlines : Uri → List Symbol)

/-- The range of the symbol that encloses the start of a reference. -/
def enclosingRange? (location : Location) : Option Range :=
  (Symbol.enclosing? (outlines location.uri) location.range.start).map Symbol.range

def isResolved (location : Location) : Bool :=
  (enclosingRange? outlines location).isSome

/-- Whether some symbol with another range than the anchor encloses the start of a reference. -/
def isKept (anchor : ResolvedSymbol) (location : Location) : Bool :=
  (enclosingRange? outlines location).any fun range => range ≠ anchor.range

/-- A call from the symbol around the first of its sites; the symbols around all of them have its
range. -/
structure FromSites (call : Call ResolvedSymbol) : Prop where
  first : ∃ site others,
    call.sites = site :: others ∧ call.symbol.uri = site.uri ∧
      Symbol.enclosing? (outlines site.uri) site.range.start = some call.symbol.symbol
  ranges : ∀ site ∈ call.sites, enclosingRange? outlines site = some call.symbol.range

end Outlines

/-- Two references, one right behind the other, are sites of one call: `earlier` are the sites
before them and `later` those behind. -/
def Together (calls : List (Call ResolvedSymbol))
    (earlier : List Location) (left right : Location) (later : List Location) : Prop :=
  ∃ before symbol beginning ending behind,
    calls = before ++ ⟨symbol, beginning ++ left :: right :: ending⟩ :: behind ∧
      earlier = before.flatMap Call.sites ++ beginning ∧
      later = ending ++ behind.flatMap Call.sites

/-- Calls that account for all references to an anchor. -/
structure AccountsFor (outlines : Uri → List Symbol) (anchor : ResolvedSymbol)
    (references : List Location) (calls : List (Call ResolvedSymbol)) : Prop where
  sites : calls.flatMap Call.sites = (byFile references).filter (isKept outlines anchor)
  callers : ∀ call ∈ calls, FromSites outlines call
  contains : ∀ call ∈ calls, ∀ site ∈ call.sites,
    call.symbol.range.contains site.range.start = true
  /-- The calls are what is left, without those from the anchor's range, of calls in which all
  neighbours are put together that can be. -/
  merged : ∃ merged : List (Call ResolvedSymbol),
    calls = (merged.filter fun call => call.symbol.range ≠ anchor.range) ∧
      merged.flatMap Call.sites = (byFile references).filter (isResolved outlines) ∧
      ∀ earlier left right later,
        (byFile references).filter (isResolved outlines) = earlier ++ left :: right :: later →
          (Together merged earlier left right later ↔
            enclosingRange? outlines left = enclosingRange? outlines right)
  /-- Neighbours that are kept are put together likewise. -/
  together : ∀ earlier left right later,
    (byFile references).filter (isResolved outlines) = earlier ++ left :: right :: later →
      isKept outlines anchor left = true →
        (Together calls (earlier.filter (isKept outlines anchor)) left right
            (later.filter (isKept outlines anchor)) ↔
          enclosingRange? outlines left = enclosingRange? outlines right)

/-- Neighbours that are related are in one of the runs that a list is cut into where neighbours are
not related. -/
theorem exists_run_of_related
    {α : Type} {related : α → α → Bool} {runs : List (List α)}
    {earlier later : List α} {left right : α}
    (apart : runs.IsChain fun one next =>
      ∃ oneNonempty nextNonempty,
        related (one.getLast oneNonempty) (next.head nextNonempty) = false)
    (joined : runs.flatten = earlier ++ left :: right :: later)
    (same : related left right = true) :
    ∃ before beginning ending behind,
      runs = before ++ (beginning ++ left :: right :: ending) :: behind ∧
        earlier = before.flatten ++ beginning ∧ later = ending ++ behind.flatten := by
  induction runs generalizing earlier with
  | nil => simp at joined
  | cons run rest inductionHypothesis =>
      have behindRun : ∀ skipped, earlier = run ++ skipped →
          rest.flatten = skipped ++ left :: right :: later →
            ∃ before beginning ending behind,
              run :: rest = before ++ (beginning ++ left :: right :: ending) :: behind ∧
                earlier = before.flatten ++ beginning ∧ later = ending ++ behind.flatten := by
        rintro skipped rfl restEq
        obtain ⟨before, beginning, ending, behind, rfl, rfl, rfl⟩ :=
          inductionHypothesis apart.tail restEq
        exact ⟨run :: before, beginning, ending, behind, rfl, by simp, rfl⟩
      rw [List.flatten_cons] at joined
      rcases List.append_eq_append_iff.1 joined with
        ⟨skipped, earlierEq, restEq⟩ | ⟨inRun, runEq, restEq⟩
      · exact behindRun skipped earlierEq restEq
      · match inRun with
        | [] => exact behindRun [] (by simpa using runEq.symm) restEq.symm
        | [_] =>
            -- the two would be the last of one run and the first of the next
            obtain ⟨rfl, nextEq⟩ := List.cons.inj restEq
            cases rest with
            | nil => simp at nextEq
            | cons next more =>
                obtain ⟨_, nextNonempty, unrelated⟩ := (List.isChain_cons_cons.1 apart).1
                obtain ⟨head, others, rfl⟩ := List.exists_cons_of_ne_nil nextNonempty
                obtain ⟨rfl, _⟩ := List.cons.inj nextEq
                simp [runEq, same] at unrelated
        | _ :: _ :: ending =>
            obtain ⟨rfl, nextEq⟩ := List.cons.inj restEq
            obtain ⟨rfl, laterEq⟩ := List.cons.inj nextEq
            exact ⟨[], earlier, ending, rest, by rw [runEq, List.nil_append], rfl, laterEq⟩

theorem flatMap_sites_joined
    (runs : List (List (Call ResolvedSymbol))) :
    (runs.filterMap joined?).flatMap Call.sites = runs.flatten.flatMap Call.sites := by
  induction runs with
  | nil => rfl
  | cons run rest inductionHypothesis =>
      rw [List.flatten_cons, List.flatMap_append, ← inductionHypothesis]
      cases run with
      | nil => rfl
      | cons first others => rfl

/-- Merging loses no site and leaves the sites in their order. -/
theorem flatMap_sites_mergeNeighbours
    (calls : List (Call ResolvedSymbol)) :
    (mergeNeighbours calls).flatMap Call.sites = calls.flatMap Call.sites := by
  rw [mergeNeighbours_eq_runs, flatMap_sites_joined, List.flatten_splitBy]

section Resolved

variable {outlines : Uri → List Symbol} {anchor : ResolvedSymbol}

theorem FromSites.contains
    {call : Call ResolvedSymbol} (fromSites : FromSites outlines call) :
    ∀ site ∈ call.sites, call.symbol.range.contains site.range.start = true := by
  intro site member
  obtain ⟨symbol, enclosed, rangeEq⟩ := Option.map_eq_some_iff.1 (fromSites.ranges site member)
  rw [← rangeEq]
  exact Symbol.contains_of_enclosing? enclosed

theorem fromSites_of_resolvedCall?
    {location : Location} {call : Call ResolvedSymbol}
    (resolved : resolvedCall? outlines location = some call) :
    FromSites outlines call := by
  obtain ⟨symbol, enclosed, rfl⟩ := Option.map_eq_some_iff.1 resolved
  refine ⟨⟨location, [], rfl, rfl, enclosed⟩, ?_⟩
  intro site member
  obtain rfl := List.mem_singleton.1 member
  rw [enclosingRange?, enclosed]
  rfl

theorem fromSites_joined
    {first : Call ResolvedSymbol} {others : List (Call ResolvedSymbol)}
    (fromSites : ∀ call ∈ first :: others, FromSites outlines call)
    (chain : (first :: others).IsChain fun left right => sameRange left right = true) :
    FromSites outlines ⟨first.symbol, (first :: others).flatMap Call.sites⟩ := by
  constructor
  · obtain ⟨site, rest, sitesEq, uriEq, enclosed⟩ := (fromSites first List.mem_cons_self).first
    refine ⟨site, rest ++ others.flatMap Call.sites, ?_, uriEq, enclosed⟩
    rw [List.flatMap_cons, sitesEq, List.cons_append]
  · intro site member
    obtain ⟨call, callMember, isSite⟩ := List.mem_flatMap.1 member
    rw [(fromSites call callMember).ranges site isSite, range_eq_of_mem_run chain call callMember]

/-- A call is still from the symbol around its first site after merging. -/
theorem fromSites_mergeNeighbours
    {calls : List (Call ResolvedSymbol)}
    (fromSites : ∀ call ∈ calls, FromSites outlines call) :
    ∀ call ∈ mergeNeighbours calls, FromSites outlines call := by
  rw [mergeNeighbours_eq_runs]
  intro call member
  obtain ⟨run, runMember, joinedEq⟩ := List.mem_filterMap.1 member
  have inCalls : ∀ single ∈ run, FromSites outlines single := by
    intro single singleMember
    apply fromSites
    rw [← List.flatten_splitBy sameRange calls]
    exact List.mem_flatten_of_mem runMember singleMember
  cases run with
  | nil => simp [joined?] at joinedEq
  | cons first others =>
      obtain rfl := Option.some.inj joinedEq
      exact fromSites_joined inCalls (List.isChain_of_mem_splitBy runMember)

theorem Together.ranges_eq
    {calls : List (Call ResolvedSymbol)} {earlier later : List Location} {left right : Location}
    (together : Together calls earlier left right later)
    (fromSites : ∀ call ∈ calls, FromSites outlines call) :
    enclosingRange? outlines left = enclosingRange? outlines right := by
  obtain ⟨before, symbol, beginning, ending, behind, rfl, -, -⟩ := together
  have ranges := (fromSites ⟨symbol, beginning ++ left :: right :: ending⟩ (by simp)).ranges
  rw [ranges left (by simp), ranges right (by simp)]

theorem together_mergeNeighbours
    {left right : Call ResolvedSymbol} {leftSite rightSite : Location}
    (leftSites : left.sites = [leftSite]) (rightSites : right.sites = [rightSite])
    (same : left.symbol.range = right.symbol.range)
    (earlier later : List (Call ResolvedSymbol)) :
    Together (mergeNeighbours (earlier ++ left :: right :: later))
      (earlier.flatMap Call.sites) leftSite rightSite (later.flatMap Call.sites) := by
  obtain ⟨before, beginning, ending, behind, runsEq, rfl, rfl⟩ :=
    exists_run_of_related
      (List.isChain_getLast_head_splitBy sameRange (earlier ++ left :: right :: later))
      (List.flatten_splitBy sameRange _) (decide_eq_true same)
  have joinedEq : ∃ symbol, joined? (beginning ++ left :: right :: ending) =
      some ⟨symbol, beginning.flatMap Call.sites ++
        leftSite :: rightSite :: ending.flatMap Call.sites⟩ := by
    cases beginning with
    | nil => exact ⟨left.symbol, by simp [joined?, leftSites, rightSites]⟩
    | cons first others => exact ⟨first.symbol, by simp [joined?, leftSites, rightSites]⟩
  obtain ⟨symbol, joinedEq⟩ := joinedEq
  refine ⟨before.filterMap joined?, symbol, beginning.flatMap Call.sites,
    ending.flatMap Call.sites, behind.filterMap joined?, ?_, ?_, ?_⟩
  · rw [mergeNeighbours_eq_runs, runsEq, List.filterMap_append,
      List.filterMap_cons_some joinedEq]
  · rw [List.flatMap_append, flatMap_sites_joined]
  · rw [List.flatMap_append, flatMap_sites_joined]

/-! ## Resolved references -/

theorem resolvedCall?_eq_none
    {location : Location} (outside : ¬isResolved outlines location = true) :
    resolvedCall? outlines location = none := by
  simpa [isResolved, enclosingRange?, resolvedCall?] using outside

theorem exists_resolvedCall?
    {location : Location} (resolved : isResolved outlines location = true) :
    ∃ call,
      resolvedCall? outlines location = some call ∧ call.sites = [location] ∧
        enclosingRange? outlines location = some call.symbol.range := by
  obtain ⟨range, rangeEq⟩ := Option.isSome_iff_exists.1 resolved
  obtain ⟨symbol, enclosed, rfl⟩ := Option.map_eq_some_iff.1 rangeEq
  have callEq : resolvedCall? outlines location =
      some ⟨⟨location.uri, symbol⟩, [location]⟩ := by
    rw [resolvedCall?, enclosed, Option.map_some]
  exact ⟨_, callEq, rfl, rangeEq⟩

theorem flatMap_sites_resolved
    (locations : List Location) :
    (locations.filterMap (resolvedCall? outlines)).flatMap Call.sites =
      locations.filter (isResolved outlines) := by
  induction locations with
  | nil => rfl
  | cons first rest inductionHypothesis =>
      by_cases resolved : isResolved outlines first = true
      · obtain ⟨call, callEq, sitesEq, -⟩ := exists_resolvedCall? resolved
        rw [List.filterMap_cons_some callEq, List.flatMap_cons, sitesEq, inductionHypothesis,
          List.filter_cons_of_pos resolved, List.singleton_append]
      · rw [List.filterMap_cons_none (resolvedCall?_eq_none resolved), inductionHypothesis,
          List.filter_cons_of_neg resolved]

theorem filterMap_resolvedCall?_filter
    (locations : List Location) :
    (locations.filter (isResolved outlines)).filterMap (resolvedCall? outlines) =
      locations.filterMap (resolvedCall? outlines) := by
  rw [List.filterMap_filter]
  apply List.filterMap_congr
  intro location _
  split
  · rfl
  · rename_i outside
    exact (resolvedCall?_eq_none outside).symm

theorem fromSites_mergeNeighbours_resolved
    (locations : List Location) :
    ∀ call ∈ mergeNeighbours (locations.filterMap (resolvedCall? outlines)),
      FromSites outlines call := by
  apply fromSites_mergeNeighbours
  intro call member
  obtain ⟨location, -, resolved⟩ := List.mem_filterMap.1 member
  exact fromSites_of_resolvedCall? resolved

/-- Neighbours are sites of one call exactly when the symbols around them have the same range. -/
theorem together_iff_mergeNeighbours_resolved
    {locations earlier later : List Location} {left right : Location}
    (neighbours : locations.filter (isResolved outlines) = earlier ++ left :: right :: later) :
    Together (mergeNeighbours (locations.filterMap (resolvedCall? outlines)))
        earlier left right later ↔
      enclosingRange? outlines left = enclosingRange? outlines right := by
  constructor
  · intro together
    exact together.ranges_eq (fromSites_mergeNeighbours_resolved locations)
  · intro same
    have allResolved : ∀ location ∈ earlier ++ left :: right :: later,
        isResolved outlines location = true := by
      intro location member
      rw [← neighbours] at member
      exact (List.mem_filter.1 member).2
    have earlierSites : (earlier.filterMap (resolvedCall? outlines)).flatMap Call.sites =
        earlier := by
      rw [flatMap_sites_resolved, List.filter_eq_self]
      exact fun location member => allResolved location (List.mem_append_left _ member)
    have laterSites : (later.filterMap (resolvedCall? outlines)).flatMap Call.sites = later := by
      rw [flatMap_sites_resolved, List.filter_eq_self]
      exact fun location member => allResolved location (by simp [member])
    obtain ⟨leftCall, leftEq, leftSites, leftRange⟩ :=
      exists_resolvedCall? (allResolved left (by simp))
    obtain ⟨rightCall, rightEq, rightSites, rightRange⟩ :=
      exists_resolvedCall? (allResolved right (by simp))
    have sameCallRange : leftCall.symbol.range = rightCall.symbol.range := by
      rw [leftRange, rightRange] at same
      exact Option.some.inj same
    have together := together_mergeNeighbours leftSites rightSites sameCallRange
      (earlier.filterMap (resolvedCall? outlines)) (later.filterMap (resolvedCall? outlines))
    rw [earlierSites, laterSites] at together
    rw [← filterMap_resolvedCall?_filter, neighbours, List.filterMap_append,
      List.filterMap_cons_some leftEq, List.filterMap_cons_some rightEq]
    exact together

theorem isKept_eq_of_mem_sites
    {call : Call ResolvedSymbol} {site : Location}
    (fromSites : FromSites outlines call) (member : site ∈ call.sites) :
    isKept outlines anchor site = decide (call.symbol.range ≠ anchor.range) := by
  rw [isKept, fromSites.ranges site member, Option.any_some]

theorem isResolved_of_isKept
    {location : Location} (kept : isKept outlines anchor location = true) :
    isResolved outlines location = true := by
  rw [isResolved, Option.isSome_iff_ne_none]
  intro outside
  rw [isKept, outside] at kept
  exact Bool.false_ne_true kept

theorem filter_isKept_sites
    {call : Call ResolvedSymbol} (fromSites : FromSites outlines call) :
    call.sites.filter (isKept outlines anchor) =
      if call.symbol.range = anchor.range then [] else call.sites := by
  split
  · rename_i own
    rw [List.filter_eq_nil_iff]
    intro site member
    simp [isKept_eq_of_mem_sites fromSites member, own]
  · rename_i other
    rw [List.filter_eq_self]
    intro site member
    simp [isKept_eq_of_mem_sites fromSites member, other]

theorem withoutAnchor_append
    (left right : List (Call ResolvedSymbol)) :
    withoutAnchor anchor (left ++ right) =
      withoutAnchor anchor left ++ withoutAnchor anchor right :=
  List.filter_append left right

theorem withoutAnchor_cons
    (call : Call ResolvedSymbol) (rest : List (Call ResolvedSymbol)) :
    withoutAnchor anchor (call :: rest) =
      if call.symbol.range = anchor.range then withoutAnchor anchor rest
      else call :: withoutAnchor anchor rest := by
  by_cases own : call.symbol.range = anchor.range
  · simp [withoutAnchor, own]
  · simp [withoutAnchor, own]

/-- The sites that remain are those of the references that are kept, in their order. -/
theorem flatMap_sites_withoutAnchor
    {calls : List (Call ResolvedSymbol)}
    (fromSites : ∀ call ∈ calls, FromSites outlines call) :
    (withoutAnchor anchor calls).flatMap Call.sites =
      (calls.flatMap Call.sites).filter (isKept outlines anchor) := by
  induction calls with
  | nil => rfl
  | cons call rest inductionHypothesis =>
      obtain ⟨callFromSites, restFromSites⟩ := List.forall_mem_cons.1 fromSites
      rw [List.flatMap_cons, List.filter_append, ← inductionHypothesis restFromSites,
        filter_isKept_sites callFromSites, withoutAnchor_cons]
      split
      · rw [List.nil_append]
      · rw [List.flatMap_cons]

theorem Together.kept
    {calls : List (Call ResolvedSymbol)} {earlier later : List Location} {left right : Location}
    (together : Together calls earlier left right later)
    (fromSites : ∀ call ∈ calls, FromSites outlines call)
    (kept : isKept outlines anchor left = true) :
    Together (withoutAnchor anchor calls) (earlier.filter (isKept outlines anchor)) left right
      (later.filter (isKept outlines anchor)) := by
  obtain ⟨before, symbol, beginning, ending, behind, rfl, rfl, rfl⟩ := together
  have callFromSites := fromSites ⟨symbol, beginning ++ left :: right :: ending⟩ (by simp)
  have other : symbol.range ≠ anchor.range := by
    rw [isKept_eq_of_mem_sites callFromSites (by simp)] at kept
    exact of_decide_eq_true kept
  have siteKept : ∀ site ∈ beginning ++ left :: right :: ending,
      isKept outlines anchor site = true := by
    intro site member
    rw [isKept_eq_of_mem_sites callFromSites member]
    exact decide_eq_true other
  have beginningKept : beginning.filter (isKept outlines anchor) = beginning :=
    List.filter_eq_self.2 fun site member => siteKept site (by simp [member])
  have endingKept : ending.filter (isKept outlines anchor) = ending :=
    List.filter_eq_self.2 fun site member => siteKept site (by simp [member])
  have beforeFromSites : ∀ call ∈ before, FromSites outlines call :=
    fun call member => fromSites call (by simp [member])
  have behindFromSites : ∀ call ∈ behind, FromSites outlines call :=
    fun call member => fromSites call (by simp [member])
  refine ⟨withoutAnchor anchor before, symbol, beginning, ending,
    withoutAnchor anchor behind, ?_, ?_, ?_⟩
  · rw [withoutAnchor_append, withoutAnchor_cons, if_neg other]
  · rw [List.filter_append, beginningKept, flatMap_sites_withoutAnchor beforeFromSites]
  · rw [List.filter_append, endingKept, flatMap_sites_withoutAnchor behindFromSites]

theorem accountsFor_withoutAnchor
    (anchor : ResolvedSymbol) (references : List Location) :
    AccountsFor outlines anchor references
      (withoutAnchor anchor (mergeNeighbours
        ((byFile references).filterMap (resolvedCall? outlines)))) := by
  have mergedFromSites : ∀ call ∈ mergeNeighbours
      ((byFile references).filterMap (resolvedCall? outlines)), FromSites outlines call :=
    fromSites_mergeNeighbours_resolved (byFile references)
  have fromSites : ∀ call ∈ withoutAnchor anchor (mergeNeighbours
      ((byFile references).filterMap (resolvedCall? outlines))), FromSites outlines call :=
    fun call member => mergedFromSites call (List.mem_filter.1 member).1
  have mergedSites := flatMap_sites_mergeNeighbours
    ((byFile references).filterMap (resolvedCall? outlines))
  rw [flatMap_sites_resolved] at mergedSites
  constructor
  case sites =>
    rw [flatMap_sites_withoutAnchor mergedFromSites, mergedSites, List.filter_filter]
    apply List.filter_congr
    intro location _
    rw [Bool.and_eq_left_iff_imp]
    exact isResolved_of_isKept
  case callers => exact fromSites
  case contains => exact fun call member => (fromSites call member).contains
  case merged =>
    exact ⟨_, rfl, mergedSites, fun _ _ _ _ => together_iff_mergeNeighbours_resolved⟩
  case together =>
    intro earlier left right later neighbours kept
    constructor
    · intro together
      exact together.ranges_eq fromSites
    · intro same
      have together := (together_iff_mergeNeighbours_resolved neighbours).2 same
      exact together.kept mergedFromSites kept

end Resolved

/-- Let a host list references to an anchor and answer with the outlines of their files. Then the
host's callers of the anchor account for the references. -/
theorem incomingCalls_account_for_references
    {host : Host} {anchor : ResolvedSymbol} {references : List Location}
    {outlines : Uri → List Symbol}
    (listed : host.references anchor.uri anchor.selectionRange.start = .ok references)
    (answered : ∀ location ∈ references,
      host.documentSymbols location.uri = .ok (outlines location.uri))
    (run : Run QueryLog) :
    ∃ calls after,
      perform (incomingCalls host anchor) run = (.ok calls, after) ∧
        AccountsFor outlines anchor references calls := by
  have answeredInOrder : ∀ location ∈ inReadingOrder references,
      host.documentSymbols location.uri = .ok (outlines location.uri) :=
    fun location member => answered location (mem_inReadingOrder.1 member)
  obtain ⟨after, performed⟩ := perform_incomingCalls anchor outlines listed answeredInOrder run
  rw [inReadingOrder_eq_byFile] at performed
  exact ⟨_, after, performed, accountsFor_withoutAnchor anchor references⟩

def linesSymbol (name : Char) (first last : Nat) (children : List Symbol) : Symbol :=
  .mk
    { name := [name]
      detail := none
      kind := .function
      tags := none
      deprecated := none
      range := ⟨⟨first, 0⟩, ⟨last, 0⟩⟩
      selectionRange := .onLine first 2 3 }
    (some children)

/-- A function and, behind it, another one with a third one inside. -/
def nestedOutline : List Symbol :=
  [linesSymbol 's' 0 1 [], linesSymbol 'o' 2 9 [linesSymbol 'i' 4 5 []]]

/-- The host of two documents whose outlines are the same. -/
def twinHost (references : List Location) : Host :=
  { definitions := fun _ _ => .ok []
    references := fun _ _ => .ok references
    documentSymbols := fun _ => .ok nestedOutline }

theorem twinHost_calls_account_for_references :
    let near : Uri := ⟨['a'], by decide⟩
    let far : Uri := ⟨['b'], by decide⟩
    let site (uri : Uri) (line : Nat) : Location := ⟨uri, .onLine line 1 2⟩
    let references := [site near 6, site far 3, site near 20, site near 4, site near 0,
      site near 6, site near 3, site far 4]
    let single : ResolvedSymbol := ⟨near, linesSymbol 's' 0 1 []⟩
    let outer : ResolvedSymbol := ⟨near, linesSymbol 'o' 2 9 [linesSymbol 'i' 4 5 []]⟩
    let anchor : ResolvedSymbol := ⟨near, linesSymbol 'i' 4 5 []⟩
    let host := twinHost references
    let run : Run QueryLog := .start [] false
    (perform (incomingCalls host anchor) run).1 =
        .ok [⟨single, [site near 0]⟩, ⟨outer, [site near 3]⟩,
          ⟨outer, [site near 6, site near 6, site far 3]⟩] ∧
      host.references anchor.uri anchor.selectionRange.start = .ok references ∧
      (∀ location ∈ references, host.documentSymbols location.uri = .ok nestedOutline) ∧
      ∃ calls after,
        perform (incomingCalls host anchor) run = (.ok calls, after) ∧
          AccountsFor (fun _ => nestedOutline) anchor references calls := by
  intro near far site references single outer anchor host run
  have listed : host.references anchor.uri anchor.selectionRange.start = .ok references := rfl
  have answered : ∀ location ∈ references,
      host.documentSymbols location.uri = .ok nestedOutline :=
    fun _ _ => rfl
  exact ⟨by rfl, listed, answered, incomingCalls_account_for_references listed answered run⟩

end CallHierarchy.Delegation
