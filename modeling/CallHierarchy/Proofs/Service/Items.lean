import CallHierarchy.Proofs.Graph.NodeIds
import CallHierarchy.Proofs.Index.Edits
import CallHierarchy.Proofs.Service.Languages

/-!
Items that come back. An item that a service hands out describes one declaration exactly, so it
leads back to it for as long as the tree of its document stays in the index; other declarations may
have the same name. Any other item stands for some declaration of its name, or for nothing.
-/

namespace CallHierarchy

open Operation

namespace SyntaxIndex

theorem find?_put_of_ne
    {tree : SyntaxTree} {uri : Uri} (otherUri : tree.uri ≠ uri) (trees : List SyntaxTree) :
    ((put tree trees).find? fun other => other.uri = uri) =
      trees.find? fun other => other.uri = uri := by
  induction trees with
  | nil => simp [put, otherUri]
  | cons first rest inductionHypothesis =>
      by_cases replaced : first.uri = tree.uri
      · simp [put, replaced, otherUri]
      · rw [put, if_neg replaced, List.find?_cons, List.find?_cons, inductionHypothesis]

/-- Bringing a document up to date leaves the trees of the others, and its own if it is of the same
version. -/
theorem tree?_ensureTree_of_kept
    {index : SyntaxIndex} {document : Snapshot} {tree : SyntaxTree}
    (found : index.tree? tree.uri = some tree)
    (kept : document.uri = tree.uri → document.version = tree.version) :
    (index.ensureTree document).2.tree? tree.uri = some tree := by
  rcases index.ensureTree_cases document with ⟨_, _, _, hit⟩ | ⟨missed, parsed⟩
  · rw [hit]
    exact found
  · have otherUri : document.uri ≠ tree.uri := by
      intro sameUri
      rw [sameUri] at missed
      exact missed tree found (kept sameUri).symm
    have parsedUri : (SyntaxTree.parse index.keyword ⟨index.nextTree⟩ document).uri ≠ tree.uri :=
      otherUri
    rw [parsed]
    exact (find?_put_of_ne parsedUri index.trees).trans found

theorem tree?_ensureAll_of_kept
    {index : SyntaxIndex} {documents : List Snapshot} {tree : SyntaxTree}
    (found : index.tree? tree.uri = some tree)
    (kept : ∀ document ∈ documents,
      document.uri = tree.uri → document.version = tree.version) :
    (index.ensureAll documents).tree? tree.uri = some tree := by
  induction documents using List.reverseRecOn with
  | nil => exact found
  | append_singleton earlier document inductionHypothesis =>
      rw [ensureAll_concat]
      apply tree?_ensureTree_of_kept
      · exact inductionHypothesis fun other member => kept other (List.mem_append_left _ member)
      · exact kept document (List.mem_append_right earlier List.mem_cons_self)

end SyntaxIndex

/-- The request is about another version of a tree's document. -/
def Request.Edits (request : Request) (tree : SyntaxTree) : Prop :=
  ∃ document, request.document? = some document ∧ document.uri = tree.uri ∧
    document.version ≠ tree.version

namespace IndexedService

variable {service : IndexedService}

theorem reachable_serveAll
    {run : Run Workspace} (reachable : Workspace.Reachable service.keyword run.state)
    (requests : List Request) :
    Workspace.Reachable service.keyword (service.serveAll run requests).state := by
  rw [state_serveAll, SyntaxIndex.run_eq_ensureAll]
  exact reachable.ensureAll _

/-- Requests that do not edit its document leave a tree where it is. -/
theorem tree?_serveAll
    {run : Run Workspace} {requests : List Request} {tree : SyntaxTree}
    (found : run.state.index.tree? tree.uri = some tree)
    (unedited : ∀ request ∈ requests, ¬ request.Edits tree) :
    (service.serveAll run requests).state.index.tree? tree.uri = some tree := by
  rw [state_serveAll, SyntaxIndex.run_eq_ensureAll]
  apply SyntaxIndex.tree?_ensureAll_of_kept found
  intro document member sameUri
  by_contra otherVersion
  obtain ⟨call, callMember, ensured⟩ := List.mem_filterMap.1 member
  obtain ⟨request, requestMember, called⟩ := List.mem_filterMap.1 callMember
  have about : request.document? = some document :=
    (Request.accepted_or_graphed called ensured).1
  exact unedited request requestMember ⟨document, about, sameUri, otherVersion⟩

theorem exactMatch?_eq_some
    {index : SyntaxIndex} {item : Item} {declaration : Declaration}
    (found : exactMatch? index item = some declaration) :
    declaration ∈ index.allFunctions ∧ declaration.name = item.name := by
  obtain ⟨tree, cached, foundInTree⟩ := Option.bind_eq_some_iff.1 found
  have matched := List.find?_some foundInTree
  rw [Bool.and_eq_true, decide_eq_true_eq] at matched
  have indexed : tree ∈ index.trees := (SyntaxIndex.tree?_eq_some cached).1
  have declared : declaration ∈ tree.declarations := List.mem_of_find?_eq_some foundInTree
  exact ⟨List.mem_flatMap.2 ⟨tree, indexed, declared⟩, matched.1⟩

theorem resolve?_eq_some
    {index : SyntaxIndex} {item : Item} {declaration : Declaration}
    (resolved : resolve? index item = some declaration) :
    declaration ∈ index.allFunctions ∧ declaration.name = item.name := by
  rcases Option.or_eq_some_iff.1 resolved with described | ⟨_, byName⟩
  · exact exactMatch?_eq_some described
  · exact ⟨Workspace.mem_of_findByName? byName, Workspace.name_of_findByName? byName⟩

/-- An item stands for nothing exactly when no declaration has its name. -/
theorem resolve?_eq_none_iff
    {index : SyntaxIndex} {item : Item} :
    resolve? index item = none ↔
      ∀ declaration ∈ index.allFunctions, declaration.name ≠ item.name := by
  constructor
  · intro unresolved declaration member sameName
    obtain ⟨target, found⟩ := Workspace.exists_findByName? member
    rw [sameName] at found
    rw [resolve?, Option.or_eq_none_iff, found] at unresolved
    cases unresolved.2
  · intro absent
    cases resolved : resolve? index item with
    | none => rfl
    | some declaration =>
        obtain ⟨member, sameName⟩ := resolve?_eq_some resolved
        exact absurd sameName (absent declaration member)

/-- The item of a declaration describes it exactly while its tree is in the index. -/
theorem exactMatch?_item
    {workspace : Workspace} (wellFormed : workspace.WellFormed)
    {tree : SyntaxTree} (cached : workspace.index.tree? tree.uri = some tree)
    {declaration : Declaration} (declared : declaration ∈ tree.declarations) :
    exactMatch? workspace.index declaration.item = some declaration := by
  have live := Workspace.mem_liveTrees_of_indexed (SyntaxIndex.tree?_eq_some cached).1
  have sameUri : declaration.item.uri = tree.uri := wellFormed.uri_of_declared live declared
  have parsed := wellFormed.parsed tree live
  rw [exactMatch?, sameUri, cached]
  dsimp only [Option.bind_eq_bind, Option.bind_some]
  cases found : tree.declarations.find? fun other =>
      other.name = declaration.item.name &&
        other.nameRange = declaration.item.selectionRange with
  | none =>
      have refused := List.find?_eq_none.1 found declaration declared
      simp [Declaration.item] at refused
  | some other =>
      -- No two declarations of a tree have their names on the same line.
      have otherDeclared := List.mem_of_find?_eq_some found
      have described := List.find?_some found
      rw [Bool.and_eq_true, decide_eq_true_eq, decide_eq_true_eq] at described
      have sameRange : other.nameRange = declaration.nameRange := described.2
      rw [parsed] at declared otherDeclared
      rw [SyntaxTree.eq_of_nameLine_eq otherDeclared declared (by rw [sameRange])]

/-- The item of a declaration of a cached tree stands for that declaration. -/
theorem resolve?_item
    {workspace : Workspace} (wellFormed : workspace.WellFormed)
    {tree : SyntaxTree} (cached : workspace.index.tree? tree.uri = some tree)
    {declaration : Declaration} (declared : declaration ∈ tree.declarations) :
    resolve? workspace.index declaration.item = some declaration := by
  rw [resolve?, exactMatch?_item wellFormed cached declared, Option.or]

/-- The item stands for the declaration, and its calls are those of the declaration. -/
structure StandsFor (run : Run Workspace) (item : Item) (declaration : Declaration) : Prop where
  resolved : resolve? run.state.index item = some declaration
  incoming : ∃ calls after,
    (DirectSearch.incomingCalls declaration).perform run = (.ok calls, after) ∧
      (incomingCalls item).perform run =
        (.ok (some (calls.map fun call => call.toItemCall Declaration.item)), after)
  outgoing : ∃ calls after,
    (DirectSearch.outgoingCalls declaration).perform run = (.ok calls, after) ∧
      (outgoingCalls item).perform run =
        (.ok (some (calls.map fun call => call.toItemCall Declaration.item)), after)

theorem perform_incomingCalls
    {run : Run Workspace} {item : Item} {declaration : Declaration}
    (resolved : resolve? run.state.index item = some declaration) :
    (incomingCalls item).perform run =
      (.ok (some ((run.state.incomingCalls declaration).map fun call =>
        call.toItemCall Declaration.item)),
        run.report fun _ => run.state.incomingEvents declaration) := by
  rw [incomingCalls, perform_bind_of_ok (perform_readState run), resolved]
  rfl

theorem perform_outgoingCalls
    {run : Run Workspace} {item : Item} {declaration : Declaration}
    (resolved : resolve? run.state.index item = some declaration) :
    (outgoingCalls item).perform run =
      (.ok (some ((run.state.outgoingCalls declaration).map fun call =>
        call.toItemCall Declaration.item)),
        run.report fun _ => run.state.outgoingEvents declaration) := by
  rw [outgoingCalls, perform_bind_of_ok (perform_readState run), resolved]
  rfl

theorem standsFor_of_resolved
    {run : Run Workspace} {item : Item} {declaration : Declaration}
    (resolved : resolve? run.state.index item = some declaration) :
    StandsFor run item declaration :=
  ⟨resolved, ⟨_, _, rfl, perform_incomingCalls resolved⟩,
    ⟨_, _, rfl, perform_outgoingCalls resolved⟩⟩

end IndexedService

def Request.items : (request : Request) → request.Answer → List Item
  | .prepare _ _, item => Option.toList item
  | .incomingCalls _, calls | .outgoingCalls _, calls =>
      (Option.getD calls []).map ItemCall.item
  | .didOpen _, _ | .didChange _, _ | .documentSymbols _, _ | .resolve _, _ | .callGraph _ _ _, _ =>
      []

namespace IndexedService

variable {service : IndexedService}

theorem exists_declaration_of_prepare
    {document : Snapshot} {position : Position} {run after : Run Workspace} {item : Item}
    (performed : (service.prepare document position).perform run = (.ok (some item), after)) :
    ∃ declaration ∈ after.state.index.allFunctions, declaration.item = item := by
  by_cases accepted : service.accepts document = true
  · have answered : (service.prepare document position).perform run =
        (.ok ((run.state.index.find document position).1.map Declaration.item),
          ((DirectSearch.prepare document position).perform run).2) := by
      rw [prepare, if_pos accepted]
      rfl
    rw [answered, Prod.mk.injEq, Except.ok.injEq] at performed
    obtain ⟨found, rfl⟩ := performed
    obtain ⟨declaration, declarationFound, isItem⟩ := Option.map_eq_some_iff.1 found
    exact ⟨declaration, Workspace.mem_of_find declarationFound, isItem⟩
  · rw [prepare, if_neg accepted] at performed
    cases performed

theorem exists_declaration_of_calls
    {run : Run Workspace} {calls : List (Call Declaration)} {item : Item}
    (indexed : ∀ call ∈ calls, call.symbol ∈ run.state.index.allFunctions)
    (member : item ∈ (calls.map fun call => call.toItemCall Declaration.item).map ItemCall.item)
    (events : Unit → List Event) :
    ∃ declaration ∈ (run.report events).state.index.allFunctions, declaration.item = item := by
  have kept : (run.report events).state = run.state := keepsState_emit events run
  obtain ⟨itemCall, inAnswer, rfl⟩ := List.mem_map.1 member
  obtain ⟨call, callMember, rfl⟩ := List.mem_map.1 inAnswer
  rw [kept]
  exact ⟨call.symbol, indexed call callMember, rfl⟩

/-- An item in an answer is the item of a declaration that the index has after the answer. -/
theorem exists_declaration_of_mem_items
    {request : Request} {answer : request.Answer} {run after : Run Workspace} {item : Item}
    (performed : (service.answer request).perform run = (.ok answer, after))
    (member : item ∈ request.items answer) :
    ∃ declaration ∈ after.state.index.allFunctions, declaration.item = item := by
  cases request with
  | didOpen document | didChange document | documentSymbols document =>
      exact absurd member List.not_mem_nil
  | resolve item | callGraph document position depth => exact absurd member List.not_mem_nil
  | prepare document position =>
      obtain rfl : answer = some item := Option.mem_toList.1 member
      exact exists_declaration_of_prepare performed
  | incomingCalls target =>
      cases resolved : resolve? run.state.index target with
      | none =>
          have answered : (incomingCalls target).perform run = (.ok none, run) := by
            rw [incomingCalls, perform_bind_of_ok (perform_readState run), resolved]
            rfl
          cases answered.symm.trans performed
          exact absurd member List.not_mem_nil
      | some declaration =>
          cases (perform_incomingCalls resolved).symm.trans performed
          refine exists_declaration_of_calls ?_ member _
          intro call called
          exact (Workspace.mem_incomingCalls.1 called).1
  | outgoingCalls target =>
      cases resolved : resolve? run.state.index target with
      | none =>
          have answered : (outgoingCalls target).perform run = (.ok none, run) := by
            rw [outgoingCalls, perform_bind_of_ok (perform_readState run), resolved]
            rfl
          cases answered.symm.trans performed
          exact absurd member List.not_mem_nil
      | some declaration =>
          cases (perform_outgoingCalls resolved).symm.trans performed
          refine exists_declaration_of_calls ?_ member _
          intro call called
          exact Workspace.mem_of_findByName? (Workspace.mem_outgoingCalls.1 called).1

/-- In every reachable state of a service, the item of an indexed declaration stands for that
declaration. The items of an answer stand for declarations until a request edits their documents,
and until then their calls are those that the search finds. Any item stands for an indexed declaration
of its name, and for none only if there is no such declaration. -/
theorem items_lead_back_to_declarations
    {run : Run Workspace} (reachable : Workspace.Reachable service.keyword run.state) :
    (∀ declaration ∈ run.state.index.allFunctions, StandsFor run declaration.item declaration) ∧
      (∀ (request : Request) (answer : request.Answer) (after : Run Workspace),
        (service.answer request).perform run = (.ok answer, after) →
        ∀ item ∈ request.items answer,
          ∃ tree ∈ after.state.index.trees, ∃ declaration ∈ tree.declarations,
            declaration.item = item ∧
            ∀ later : List Request, (∀ request ∈ later, ¬ request.Edits tree) →
              StandsFor (service.serveAll after later) item declaration) ∧
      ∀ item : Item,
        (resolve? run.state.index item = none ↔
          ∀ declaration ∈ run.state.index.allFunctions, declaration.name ≠ item.name) ∧
        ∀ declaration, resolve? run.state.index item = some declaration →
          declaration ∈ run.state.index.allFunctions ∧ declaration.name = item.name := by
  refine ⟨?_, ?_, fun item => ⟨resolve?_eq_none_iff, fun declaration => resolve?_eq_some⟩⟩
  · intro declaration member
    obtain ⟨tree, indexed, declared⟩ := List.mem_flatMap.1 member
    have cached := SyntaxIndex.tree?_of_mem reachable.wellFormed.distinctUris indexed
    exact standsFor_of_resolved (resolve?_item reachable.wellFormed cached declared)
  · intro request answer after performed item member
    have afterEq : after = service.serveAll run [request] := congrArg Prod.snd performed.symm
    have afterReachable : Workspace.Reachable service.keyword after.state := by
      rw [afterEq]
      exact reachable_serveAll reachable [request]
    obtain ⟨declaration, indexed, rfl⟩ := exists_declaration_of_mem_items performed member
    obtain ⟨tree, treeMember, declared⟩ := List.mem_flatMap.1 indexed
    refine ⟨tree, treeMember, declaration, declared, rfl, ?_⟩
    intro later unedited
    have cached := SyntaxIndex.tree?_of_mem afterReachable.wellFormed.distinctUris treeMember
    have laterReachable := reachable_serveAll afterReachable later
    exact standsFor_of_resolved
      (resolve?_item laterReachable.wellFormed (tree?_serveAll cached unedited) declared)

/-- Two documents that declare `g` twice each and call it in the second body. -/
def firstTwice : Snapshot :=
  ⟨⟨['a'], Eq.refl true⟩, ['a', 'b', 'c'], 1,
    "func g \x7b\n\x7d\nfunc g \x7b\n g\n\x7d".toList⟩

def secondTwice : Snapshot := { firstTwice with uri := ⟨['b'], Eq.refl true⟩ }

def bothTwice : Run Workspace :=
  plainService.serveAll (.start plainService.initial false)
    [.didOpen firstTwice, .didOpen secondTwice]

def callersOfLast : Request :=
  .incomingCalls
    { name := ['g']
      kind := .function
      tags := none
      detail := none
      uri := secondTwice.uri
      range := ⟨⟨2, 0⟩, ⟨4, 1⟩⟩
      selectionRange := ⟨⟨2, 5⟩, ⟨2, 6⟩⟩
      data := none }

theorem bothTwice_items_lead_back :
    let later : List Request := [.didOpen (oneFunction ⟨['c'], by decide⟩ ['a', 'b', 'c']),
      .didChange secondTwice, callersOfLast]
    Workspace.Reachable plainService.keyword bothTwice.state ∧
      bothTwice.state.index.allFunctions.map Declaration.name = [['g'], ['g'], ['g'], ['g']] ∧
      (∀ declaration ∈ bothTwice.state.index.allFunctions,
        StandsFor bothTwice declaration.item declaration) ∧
      ∃ answer after,
        (plainService.answer callersOfLast).perform bothTwice = (.ok answer, after) ∧
        (callersOfLast.items answer).map Item.uri = [firstTwice.uri, secondTwice.uri] ∧
        ∀ item ∈ callersOfLast.items answer,
          ∃ tree ∈ after.state.index.trees, ∃ declaration ∈ tree.declarations,
            declaration.item = item ∧
            StandsFor (plainService.serveAll after later) item declaration := by
  intro later
  have started : Workspace.Reachable plainService.keyword
      (Run.start plainService.initial false).state := Relation.ReflTransGen.refl
  have reachable : Workspace.Reachable plainService.keyword bothTwice.state :=
    reachable_serveAll started _
  have uris : ((plainService.answer callersOfLast).perform bothTwice).1.toOption.map
      (fun answer => (callersOfLast.items answer).map Item.uri) =
        some [firstTwice.uri, secondTwice.uri] := by decide +kernel
  have versions : ∀ tree ∈ (plainService.serve bothTwice callersOfLast).state.index.trees,
      tree.version = 1 := by decide +kernel
  obtain ⟨declared, handedOut, _⟩ := items_lead_back_to_declarations reachable
  refine ⟨reachable, by decide +kernel, declared, ?_⟩
  rcases performed : (plainService.answer callersOfLast).perform bothTwice with
    ⟨error | answer, after⟩
  · rw [performed] at uris
    cases uris
  · rw [performed] at uris
    rw [serve, performed] at versions
    refine ⟨answer, after, rfl, Option.some.inj uris, ?_⟩
    intro item member
    obtain ⟨tree, indexed, declaration, known, isItem, standsFor⟩ :=
      handedOut callersOfLast answer after performed item member
    refine ⟨tree, indexed, declaration, known, isItem, standsFor later ?_⟩
    rintro request requested ⟨document, about, _, otherVersion⟩
    have sameVersion : document.version = 1 := by
      simp only [later, List.mem_cons, List.not_mem_nil, or_false] at requested
      rcases requested with rfl | rfl | rfl
      · cases about
        rfl
      · cases about
        rfl
      · cases about
    exact otherVersion (sameVersion.trans (versions tree indexed).symm)

end IndexedService

end CallHierarchy
