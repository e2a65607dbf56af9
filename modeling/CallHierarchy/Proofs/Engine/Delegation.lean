import CallHierarchy.Engine.Delegated
import CallHierarchy.Proofs.Operation
import Mathlib.Data.List.SplitBy

/-!
What asking a host gives. When the host answers, the callers of a symbol are a function of its
answers: the references in reading order, each mapped to the symbol around it, neighbours merged,
the anchor left out.
-/

namespace CallHierarchy.Delegation

open Operation

theorem perform_ask_ok
    {α : Type} (query : Query) (answer : α) (run : Run QueryLog) :
    perform (ask query (.ok answer)) run =
      (.ok answer, { run with state := run.state ++ [query] }) :=
  rfl

/-- The call that one reference makes, if some symbol of its document's outline encloses it. -/
def resolvedCall? (outlines : Uri → List Symbol) (location : Location) :
    Option (Call ResolvedSymbol) :=
  (Symbol.enclosing? (outlines location.uri) location.range.start).map fun symbol =>
    ⟨⟨location.uri, symbol⟩, [location]⟩

theorem perform_symbolAt
    {host : Host} {uri : Uri} {outline : List Symbol}
    (answered : host.documentSymbols uri = .ok outline)
    (position : Position) (run : Run QueryLog) :
    ∃ after,
      perform (symbolAt host uri position) run =
        (.ok ((Symbol.enclosing? outline position).map (ResolvedSymbol.mk uri)), after) := by
  have asked : perform (ask (.documentSymbols uri) (host.documentSymbols uri)) run =
      (.ok outline, { run with state := run.state ++ [.documentSymbols uri] }) := by
    rw [answered]
    rfl
  rw [symbolAt, perform_bind_of_ok asked]
  cases Symbol.enclosing? outline position with
  | some symbol => exact ⟨_, rfl⟩
  | none => exact ⟨_, rfl⟩

theorem perform_prepare
    {host : Host} {uri : Uri} {position : Position} {definition : Location}
    {others : List Location} (defined : host.definitions uri position = .ok (definition :: others))
    (run : Run QueryLog) :
    perform (prepare host uri position) run =
      perform (symbolAt host definition.uri definition.range.start)
        { run with state := run.state ++ [.definitions uri position] } := by
  have asked := perform_ask_ok (.definitions uri position) (definition :: others) run
  rw [← defined] at asked
  rw [prepare, perform_bind_of_ok asked]

/-- Each reference is resolved by the outline that the host gives of its document. -/
theorem perform_resolve
    {host : Host} {outlines : Uri → List Symbol} {locations : List Location}
    (answered : ∀ location ∈ locations,
      host.documentSymbols location.uri = .ok (outlines location.uri))
    (run : Run QueryLog) :
    ∃ after,
      perform (resolve host locations) run =
        (.ok (locations.filterMap (resolvedCall? outlines)), after) := by
  induction locations generalizing run with
  | nil => exact ⟨run, rfl⟩
  | cons location rest inductionHypothesis =>
      obtain ⟨found, foundEq⟩ := perform_symbolAt (answered location List.mem_cons_self)
        location.range.start run
      obtain ⟨after, laterEq⟩ := inductionHypothesis
        (fun other member => answered other (List.mem_cons_of_mem location member)) found
      refine ⟨after, ?_⟩
      rw [resolve, perform_bind_of_ok foundEq, perform_bind_of_ok laterEq]
      cases enclosed : Symbol.enclosing? (outlines location.uri) location.range.start with
      | none =>
          rw [List.filterMap_cons_none (by rw [resolvedCall?, enclosed, Option.map_none])]
          rfl
      | some symbol =>
          rw [List.filterMap_cons_some (by rw [resolvedCall?, enclosed, Option.map_some])]
          rfl

/-- The callers of a symbol, when the host answers every question. -/
theorem perform_incomingCalls
    {host : Host} (anchor : ResolvedSymbol) (outlines : Uri → List Symbol)
    {references : List Location}
    (listed : host.references anchor.uri anchor.selectionRange.start = .ok references)
    (answered : ∀ location ∈ References.inReadingOrder references,
      host.documentSymbols location.uri = .ok (outlines location.uri))
    (run : Run QueryLog) :
    ∃ after,
      perform (incomingCalls host anchor) run =
        (.ok (withoutAnchor anchor (mergeNeighbours
          ((References.inReadingOrder references).filterMap (resolvedCall? outlines)))),
          after) := by
  have asked := perform_ask_ok (.references anchor.uri anchor.selectionRange.start)
    references run
  rw [← listed] at asked
  unfold incomingCalls
  dsimp only
  rw [perform_bind_of_ok asked]
  by_cases empty : references = []
  · subst empty
    exact ⟨_, rfl⟩
  · rw [if_neg (by rwa [List.isEmpty_iff])]
    obtain ⟨resolved, resolvedEq⟩ := perform_resolve answered
      { run with
        state := run.state ++ [.references anchor.uri anchor.selectionRange.start] }
    rw [perform_bind_of_ok resolvedEq]
    exact ⟨_, rfl⟩

def sameRange (left right : Call ResolvedSymbol) : Bool :=
  left.symbol.range = right.symbol.range

/-- The call that a run of calls is merged into: the symbol of the first one with the sites of
all. -/
def joined? : List (Call ResolvedSymbol) → Option (Call ResolvedSymbol)
  | [] => none
  | first :: rest => some ⟨first.symbol, (first :: rest).flatMap Call.sites⟩

theorem range_eq_of_mem_run
    {first : Call ResolvedSymbol} {rest : List (Call ResolvedSymbol)}
    (chain : (first :: rest).IsChain fun left right => sameRange left right = true) :
    ∀ call ∈ first :: rest, call.symbol.range = first.symbol.range := by
  induction rest generalizing first with
  | nil => simp
  | cons second rest inductionHypothesis =>
      obtain ⟨same, restChain⟩ := List.isChain_cons_cons.1 chain
      refine List.forall_mem_cons.2 ⟨rfl, ?_⟩
      intro call member
      rw [inductionHypothesis restChain call member]
      exact (of_decide_eq_true same).symm

theorem foldl_merge_of_same_range
    {symbol : ResolvedSymbol} {rest : List (Call ResolvedSymbol)}
    (same : ∀ call ∈ rest, call.symbol.range = symbol.range)
    (sites : List Location) (earlier : List (Call ResolvedSymbol)) :
    rest.foldl merge (⟨symbol, sites⟩ :: earlier) =
      ⟨symbol, sites ++ rest.flatMap Call.sites⟩ :: earlier := by
  induction rest generalizing sites with
  | nil => rw [List.foldl_nil, List.flatMap_nil, List.append_nil]
  | cons call rest inductionHypothesis =>
      obtain ⟨sameCall, sameRest⟩ := List.forall_mem_cons.1 same
      have step : merge (⟨symbol, sites⟩ :: earlier) call =
          ⟨symbol, sites ++ call.sites⟩ :: earlier :=
        if_pos sameCall.symm
      rw [List.foldl_cons, step, inductionHypothesis sameRest, List.flatMap_cons,
        List.append_assoc]

/-- A run that begins with another range than the last call kept becomes a call of its own. -/
theorem foldl_merge_run
    {first : Call ResolvedSymbol} {rest kept : List (Call ResolvedSymbol)}
    (chain : (first :: rest).IsChain fun left right => sameRange left right = true)
    (newRange : ∀ last ∈ kept.head?, last.symbol.range ≠ first.symbol.range) :
    (first :: rest).foldl merge kept =
      ⟨first.symbol, (first :: rest).flatMap Call.sites⟩ :: kept := by
  have opened : merge kept first = first :: kept := by
    cases kept with
    | nil => rfl
    | cons last earlier => exact if_neg (newRange last rfl)
  have same : ∀ call ∈ rest, call.symbol.range = first.symbol.range :=
    fun call member => range_eq_of_mem_run chain call (List.mem_cons_of_mem first member)
  rw [List.foldl_cons, opened, foldl_merge_of_same_range same, List.flatMap_cons]

theorem range_ne_of_apart
    {first : Call ResolvedSymbol} {others : List (Call ResolvedSymbol)}
    {rest : List (List (Call ResolvedSymbol))}
    (chain : (first :: others).IsChain fun left right => sameRange left right = true)
    (apart : ((first :: others) :: rest).IsChain fun left right =>
      ∃ leftNonempty rightNonempty,
        sameRange (left.getLast leftNonempty) (right.head rightNonempty) = false) :
    ∀ next ∈ rest.flatten.head?, first.symbol.range ≠ next.symbol.range := by
  intro next isHead sameAsFirst
  cases rest with
  | nil => simp at isHead
  | cons run later =>
      obtain ⟨lastExists, runNonempty, different⟩ := (List.isChain_cons_cons.1 apart).1
      obtain ⟨head, more, rfl⟩ := List.exists_cons_of_ne_nil runNonempty
      obtain rfl : head = next := by simpa using isHead
      have lastRange := range_eq_of_mem_run chain _ (List.getLast_mem lastExists)
      exact of_decide_eq_false different (lastRange.trans sameAsFirst)

/-- Merging adds one call for each run of neighbours to the calls kept before. -/
theorem foldl_merge_flatten
    {runs : List (List (Call ResolvedSymbol))} (kept : List (Call ResolvedSymbol))
    (nonempty : [] ∉ runs)
    (chains : ∀ run ∈ runs, run.IsChain fun left right => sameRange left right = true)
    (apart : runs.IsChain fun left right =>
      ∃ leftNonempty rightNonempty,
        sameRange (left.getLast leftNonempty) (right.head rightNonempty) = false)
    (newRange : ∀ last ∈ kept.head?, ∀ first ∈ runs.flatten.head?,
      last.symbol.range ≠ first.symbol.range) :
    runs.flatten.foldl merge kept = (runs.filterMap joined?).reverse ++ kept := by
  induction runs generalizing kept with
  | nil => rfl
  | cons run rest inductionHypothesis =>
      cases run with
      | nil => exact absurd List.mem_cons_self nonempty
      | cons first others =>
          have restNonempty : [] ∉ rest := fun member => nonempty (List.mem_cons_of_mem _ member)
          obtain ⟨runChain, restChains⟩ := List.forall_mem_cons.1 chains
          rw [List.flatten_cons, List.foldl_append,
            foldl_merge_run runChain fun last isLast => newRange last isLast first rfl]
          have nextRange := range_ne_of_apart runChain apart
          rw [inductionHypothesis _ restNonempty restChains apart.tail (by simpa using nextRange)]
          simp [joined?]

/-- Merging makes one call of every run of neighbours with the same range. -/
theorem mergeNeighbours_eq_runs
    (calls : List (Call ResolvedSymbol)) :
    mergeNeighbours calls = (calls.splitBy sameRange).filterMap joined? := by
  have merged := foldl_merge_flatten [] (List.nil_notMem_splitBy sameRange calls)
    (fun _ => List.isChain_of_mem_splitBy) (List.isChain_getLast_head_splitBy sameRange calls)
    (by simp)
  rw [List.flatten_splitBy, List.append_nil] at merged
  rw [mergeNeighbours, merged, List.reverse_reverse]

/-- The references of a call, one by one. -/
def singleCalls (call : Call ResolvedSymbol) : List (Call ResolvedSymbol) :=
  call.sites.map fun site => ⟨call.symbol, [site]⟩

theorem symbol_of_mem_singleCalls
    {call single : Call ResolvedSymbol} (member : single ∈ singleCalls call) :
    single.symbol = call.symbol := by
  obtain ⟨site, _, rfl⟩ := List.mem_map.1 member
  rfl

theorem joined?_singleCalls
    {call : Call ResolvedSymbol} (someSite : call.sites ≠ []) :
    joined? (singleCalls call) = some call := by
  obtain ⟨symbol, sites⟩ := call
  obtain ⟨site, rest, rfl⟩ := List.exists_cons_of_ne_nil someSite
  simp [singleCalls, joined?, List.flatMap_map]

/-- Calls from symbols with different ranges are put together again from their references. -/
theorem mergeNeighbours_flatMap_singleCalls
    {calls : List (Call ResolvedSymbol)}
    (someSites : ∀ call ∈ calls, call.sites ≠ [])
    (distinct : calls.Pairwise fun left right => left.symbol.range ≠ right.symbol.range) :
    mergeNeighbours (calls.flatMap singleCalls) = calls := by
  have nonempty : ∀ call ∈ calls, singleCalls call ≠ [] :=
    fun call member => mt List.map_eq_nil_iff.1 (someSites call member)
  have chains : ∀ run ∈ calls.map singleCalls,
      run.IsChain fun left right => sameRange left right = true := by
    intro run member
    obtain ⟨call, _, rfl⟩ := List.mem_map.1 member
    refine (List.pairwise_map.2 (List.pairwise_of_forall ?_)).isChain
    intro left right
    simp [sameRange]
  have apart : (calls.map singleCalls).IsChain fun left right =>
      ∃ leftNonempty rightNonempty,
        sameRange (left.getLast leftNonempty) (right.head rightNonempty) = false := by
    refine (List.pairwise_map.2 (distinct.imp_of_mem ?_)).isChain
    intro left right leftMember rightMember different
    refine ⟨nonempty left leftMember, nonempty right rightMember, ?_⟩
    rw [sameRange, symbol_of_mem_singleCalls (List.getLast_mem _),
      symbol_of_mem_singleCalls (List.head_mem _)]
    exact decide_eq_false different
  have split : (calls.flatMap singleCalls).splitBy sameRange = calls.map singleCalls :=
    List.splitBy_flatten (by simpa using nonempty) chains apart
  have joined : ∀ call ∈ calls, (joined? ∘ singleCalls) call = some call :=
    fun call member => joined?_singleCalls (someSites call member)
  rw [mergeNeighbours_eq_runs, split, List.filterMap_map, List.filterMap_congr joined,
    List.filterMap_some]

end CallHierarchy.Delegation
