import CallHierarchy.Proofs.Service.Requests

/-!
Which languages get into the index of a service. Every request but one asks for the language of its
document before it reaches the index. A request for a graph does not: around a word, it indexes
the document whatever its language is. So a tree of another language stems from such a request.
-/

namespace CallHierarchy

namespace SyntaxIndex

/-- Every tree of an index is an old one or the tree of a document that was brought up to date. -/
theorem mem_trees_ensureAll
    {index : SyntaxIndex} {documents : List Snapshot} {tree : SyntaxTree}
    (member : tree ∈ (index.ensureAll documents).trees) :
    tree ∈ index.trees ∨ tree.document ∈ documents := by
  induction documents generalizing index with
  | nil => exact Or.inl member
  | cons document rest inductionHypothesis =>
      have step : index.ensureAll (document :: rest) =
          (index.ensureTree document).2.ensureAll rest := rfl
      rw [step] at member
      rcases inductionHypothesis member with before | inRest
      · rcases index.ensureTree_cases document with ⟨_, _, _, hit⟩ | ⟨_, parsed⟩
        · rw [hit] at before
          exact Or.inl before
        · rw [parsed] at before
          rcases mem_of_mem_put before with rfl | old
          · exact Or.inr List.mem_cons_self
          · exact Or.inl old
      · exact Or.inr (List.mem_cons_of_mem document inRest)

end SyntaxIndex

namespace Request

def graphsWord : Request → Bool
  | callGraph document position _ => (SyntaxIndex.wordAt? document position).isSome
  | _ => false

/-- A document is brought up to date if the service accepts it or its graph is drawn. -/
theorem accepted_or_graphed
    {service : IndexedService} {request : Request} {call : IndexCall} {document : Snapshot}
    (called : request.indexCall? service = some call)
    (ensured : call.ensured? = some document) :
    request.document? = some document ∧
      (service.accepts document = true ∨ request.graphsWord = true) := by
  cases request with
  | didOpen target | didChange target | documentSymbols target =>
      obtain ⟨accepted, ⟨⟩⟩ := Option.ite_none_right_eq_some.1 called
      cases ensured
      exact ⟨rfl, Or.inl accepted⟩
  | prepare target position =>
      obtain ⟨accepted, ⟨⟩⟩ := Option.ite_none_right_eq_some.1 called
      obtain ⟨_, _, rfl⟩ := Option.map_eq_some_iff.1 ensured
      exact ⟨rfl, Or.inl accepted⟩
  | resolve item | incomingCalls item | outgoingCalls item => cases called
  | callGraph target position depth =>
      cases called
      obtain ⟨word, found, rfl⟩ := Option.map_eq_some_iff.1 ensured
      exact ⟨rfl, Or.inr (by rw [graphsWord, found, Option.isSome_some])⟩

/-- With a document that the service does not accept, only the graph around a word is drawn from
the document's own tree. -/
theorem run_indexCall?_of_refused
    {service : IndexedService} {request : Request} {document : Snapshot}
    (about : request.document? = some document)
    (refused : service.accepts document = false) (index : SyntaxIndex) :
    index.run (request.indexCall? service).toList =
      if request.graphsWord = true then (index.ensureTree document).2 else index := by
  cases request with
  | didOpen target | didChange target | documentSymbols target | prepare target position =>
      obtain rfl := Option.some.inj about
      simp [indexCall?, graphsWord, refused, SyntaxIndex.run]
  | resolve item | incomingCalls item | outgoingCalls item => cases about
  | callGraph target position depth =>
      obtain rfl := Option.some.inj about
      cases found : SyntaxIndex.wordAt? target position with
      | none => simp [indexCall?, graphsWord, SyntaxIndex.run, SyntaxIndex.perform,
          SyntaxIndex.find, found]
      | some word => simp [indexCall?, graphsWord, SyntaxIndex.run, SyntaxIndex.perform,
          SyntaxIndex.find, found]

end Request

theorem Keyword.ofText?_eq_some_iff
    {text : Text} {keyword : Keyword} :
    Keyword.ofText? text = some keyword ↔ keyword.text = text := by
  constructor
  · intro found
    obtain ⟨_, ⟨⟩⟩ := Option.dite_none_right_eq_some.1 found
    rfl
  · rintro rfl
    exact keyword.ofText?_text

/-- A service starts with the settings that it is given, and with the keyword that they name. -/
theorem IndexedService.ofSettings_eq_ok_iff
    {settings : Settings} {service : IndexedService} :
    IndexedService.ofSettings settings = .ok service ↔
      service.settings = settings ∧ service.keyword.text = settings.functionKeyword := by
  obtain ⟨serviceSettings, keyword⟩ := service
  rw [← Keyword.ofText?_eq_some_iff, IndexedService.ofSettings, Settings.validate]
  cases Keyword.ofText? settings.functionKeyword with
  | none => simp [bind, Except.bind]
  | some found => simp [bind, Except.bind, pure, Except.pure, eq_comm]

/-- After any requests to a service, a cached tree is of the language of the settings unless the
graph around one of the words of its document was asked for. A request about a document of another
language leaves the workspace as it is unless it asks for such a graph, and then it brings the
document up to date. -/
theorem only_graphs_index_other_languages
    {settings : Settings} {service : IndexedService}
    (started : IndexedService.ofSettings settings = .ok service)
    (recording : Bool) (requests : List Request) :
    let run := service.serveAll (.start service.initial recording) requests
    (∀ tree ∈ run.state.index.trees,
      tree.document.languageId = settings.languageId ∨
        ∃ request ∈ requests,
          request.graphsWord = true ∧ request.document? = some tree.document) ∧
      ∀ request document, request.document? = some document →
        document.languageId ≠ settings.languageId →
          (service.serve run request).state =
            if request.graphsWord = true then
              { run.state with index := (run.state.index.ensureTree document).2 }
            else
              run.state := by
  intro run
  obtain ⟨rfl, -⟩ := IndexedService.ofSettings_eq_ok_iff.1 started
  constructor
  · intro tree member
    have indexEq : run.state.index = (SyntaxIndex.empty service.keyword).ensureAll
        ((requests.filterMap (Request.indexCall? service)).filterMap IndexCall.ensured?) := by
      simp only [run]
      rw [IndexedService.state_serveAll, ← SyntaxIndex.run_eq_ensureAll]
      rfl
    rw [indexEq] at member
    rcases SyntaxIndex.mem_trees_ensureAll member with old | ensured
    · exact absurd old List.not_mem_nil
    · obtain ⟨call, callMember, ensuredHere⟩ := List.mem_filterMap.1 ensured
      obtain ⟨request, requestMember, called⟩ := List.mem_filterMap.1 callMember
      obtain ⟨about, accepted | graphed⟩ := Request.accepted_or_graphed called ensuredHere
      · exact Or.inl (of_decide_eq_true accepted)
      · exact Or.inr ⟨request, requestMember, graphed, about⟩
  · intro request document about otherLanguage
    have refused : service.accepts document = false := decide_eq_false otherLanguage
    rw [IndexedService.state_serve, Request.run_indexCall?_of_refused about refused]
    split
    · rfl
    · rfl

def plainService : IndexedService :=
  ⟨.default, ⟨Settings.default.functionKeyword, by decide⟩⟩

def oneFunction (uri : Uri) (languageId : Text) : Snapshot :=
  ⟨uri, languageId, 1, "func f \x7b\n\x7d".toList⟩

/-- Requests about a document of the service's language and one of another. -/
def mixedRequests : List Request :=
  let own := oneFunction ⟨['a'], Eq.refl true⟩ ['a', 'b', 'c']
  let foreign := oneFunction ⟨['b'], Eq.refl true⟩ ['t', 'e', 'x', 't']
  [.didOpen own, .didOpen foreign, .prepare foreign ⟨0, 5⟩, .callGraph foreign ⟨0, 6⟩ 1]

theorem mixedRequests_only_graphs_index :
    let run := plainService.serveAll (.start plainService.initial false) mixedRequests
    IndexedService.ofSettings .default = .ok plainService ∧
      run.state.index.trees.map (fun tree => tree.document.languageId) =
        [['a', 'b', 'c'], ['t', 'e', 'x', 't']] ∧
      ∀ tree ∈ run.state.index.trees,
        tree.document.languageId = Settings.default.languageId ∨
          ∃ request ∈ mixedRequests,
            request.graphsWord = true ∧ request.document? = some tree.document := by
  have started : IndexedService.ofSettings .default = .ok plainService :=
    IndexedService.ofSettings_eq_ok_iff.2 ⟨rfl, rfl⟩
  exact ⟨started, by decide +kernel,
    (only_graphs_index_other_languages started false mixedRequests).1⟩

/-- A request for a graph brings a document of another language into the index of a service that
has seen nothing before, even if it finds no function to draw. -/
theorem graph_request_indexes_other_language :
    let foreign := oneFunction ⟨['b'], by decide⟩ ['t', 'e', 'x', 't']
    let start : Run Workspace := .start plainService.initial false
    let after := plainService.serve start (.callGraph foreign ⟨0, 1⟩ 0)
    IndexedService.ofSettings .default = .ok plainService ∧
      start.state.index.trees.length = 0 ∧
      after.state.index.trees.map (fun tree => tree.document.languageId) =
        [['t', 'e', 'x', 't']] ∧
      Settings.default.languageId = ['a', 'b', 'c'] := by
  intro foreign start after
  exact ⟨IndexedService.ofSettings_eq_ok_iff.2 ⟨rfl, rfl⟩, by decide +kernel, by decide +kernel,
    by decide +kernel⟩

end CallHierarchy
