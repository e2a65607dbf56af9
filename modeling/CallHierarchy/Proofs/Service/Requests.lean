import CallHierarchy.Proofs.Graph.DirectGraphs
import CallHierarchy.Service.Indexed

/-!
Requests to a service, and what they do to its workspace. Whatever is asked, the service makes at
most one call of its index, so a run of the service is a run of the index.
-/

namespace CallHierarchy

open Operation

/-- What a client may ask of a service. -/
inductive Request where
  | didOpen (document : Snapshot)
  | didChange (document : Snapshot)
  | documentSymbols (document : Snapshot)
  | prepare (document : Snapshot) (position : Position)
  | resolve (item : Item)
  | incomingCalls (item : Item)
  | outgoingCalls (item : Item)
  | callGraph (document : Snapshot) (position : Position) (depth : Nat)

namespace Request

/-- The answer that a request gets if it does not fail. -/
def Answer : Request → Type
  | didOpen _ | didChange _ => Unit
  | documentSymbols _ => Option (List Symbol)
  | prepare _ _ => Option Item
  | resolve _ => Option Declaration
  | incomingCalls _ | outgoingCalls _ => Option (List ItemCall)
  | callGraph _ _ _ => CallGraph

def document? : Request → Option Snapshot
  | didOpen document | didChange document | documentSymbols document | prepare document _
  | callGraph document _ _ => some document
  | resolve _ | incomingCalls _ | outgoingCalls _ => none

/-- The call that a request makes of the index. Only the graph is drawn without a look at the
language of the document. -/
def indexCall? (service : IndexedService) : Request → Option IndexCall
  | didOpen document | didChange document | documentSymbols document =>
      if service.accepts document then some (.ensureTree document) else none
  | prepare document position =>
      if service.accepts document then some (.find document position) else none
  | resolve _ | incomingCalls _ | outgoingCalls _ => none
  | callGraph document position _ => some (.find document position)

end Request

namespace IndexedService

def answer (service : IndexedService) : (request : Request) → Operation Workspace request.Answer
  | .didOpen document | .didChange document => service.refresh document
  | .documentSymbols document => service.documentSymbols document
  | .prepare document position => service.prepare document position
  | .resolve item => do return resolve? (← readState).index item
  | .incomingCalls item => incomingCalls item
  | .outgoingCalls item => outgoingCalls item
  | .callGraph document position depth => callGraph document position depth

/-- The run after a request, whether it was answered or failed. -/
def serve (service : IndexedService) (run : Run Workspace) (request : Request) : Run Workspace :=
  ((service.answer request).perform run).2

def serveAll (service : IndexedService) (run : Run Workspace) (requests : List Request) :
    Run Workspace :=
  requests.foldl service.serve run

end IndexedService

namespace DirectSearch

theorem keepsState_calls
    (direction : Direction) (item : Declaration) :
    KeepsState (Exploration.calls engine direction item) := by
  intro run
  obtain ⟨events, performed⟩ := perform_calls direction item run
  rw [performed]
  exact keepsState_emit events run

/-- Exploring leaves the workspace as it is. -/
theorem keepsState_exploreFrom
    (direction : Direction) (depth : Nat) (anchor : Declaration) (graph : CallGraph) :
    KeepsState (Exploration.exploreFrom engine direction depth anchor graph) :=
  Exploration.compositional_explore compositional_keepsState (keepsState_calls direction) depth 0
    [anchor] ⟨graph, []⟩

theorem state_prepare
    (document : Snapshot) (position : Position) (run : Run Workspace) :
    ((prepare document position).perform run).2.state =
      { run.state with index := run.state.index.perform (.find document position) } :=
  rfl

theorem keepsState_grow
    (depth : Nat) (seeded : CallGraph × Declaration) :
    KeepsState (do
      let callers ← Exploration.exploreFrom engine .callers depth seeded.2 seeded.1
      Exploration.exploreFrom engine .callees depth seeded.2 callers) :=
  (keepsState_exploreFrom .callers depth seeded.2 seeded.1).bind fun callers =>
    keepsState_exploreFrom .callees depth seeded.2 callers

theorem state_seed
    (document : Snapshot) (position : Position) (run : Run Workspace) :
    ((Exploration.seed engine document position).perform run).2.state =
      { run.state with index := run.state.index.perform (.find document position) } := by
  rw [← state_prepare]
  apply state_perform_bind
  rintro (_ | anchor)
  · exact keepsState_throw _
  · exact keepsState_pure _

end DirectSearch

namespace IndexedService

variable (service : IndexedService)

/-- An operation behind the check of the language makes its call of the index or none. -/
theorem state_of_accepts
    {α : Type} (document : Snapshot) {accepted refused : Operation Workspace α} {call : IndexCall}
    (called : ∀ run, (accepted.perform run).2.state =
      { run.state with index := run.state.index.perform call })
    (kept : KeepsState refused) (run : Run Workspace) :
    ((if service.accepts document then accepted else refused).perform run).2.state =
      { run.state with
        index := run.state.index.run
          (if service.accepts document then some call else none).toList } := by
  split
  · exact called run
  · exact kept run

theorem state_refresh
    (document : Snapshot) (run : Run Workspace) :
    ((service.refresh document).perform run).2.state =
      { run.state with
        index := run.state.index.run ((Request.didOpen document).indexCall? service).toList } :=
  service.state_of_accepts document (state_perform_bind _ fun _ => keepsState_pure _)
    (keepsState_emit _) run

theorem state_documentSymbols
    (document : Snapshot) (run : Run Workspace) :
    ((service.documentSymbols document).perform run).2.state =
      { run.state with
        index := run.state.index.run
          ((Request.documentSymbols document).indexCall? service).toList } :=
  service.state_of_accepts document (state_perform_bind _ fun _ => keepsState_pure _)
    (keepsState_pure _) run

theorem state_prepare
    (document : Snapshot) (position : Position) (run : Run Workspace) :
    ((service.prepare document position).perform run).2.state =
      { run.state with
        index := run.state.index.run
          ((Request.prepare document position).indexCall? service).toList } :=
  service.state_of_accepts document (state_perform_bind _ fun _ => keepsState_pure _)
    (keepsState_pure _) run

theorem keepsState_incomingCalls (item : Item) : KeepsState (incomingCalls item) := by
  refine keepsState_readState.bind ?_
  intro workspace
  cases resolve? workspace.index item with
  | none => exact keepsState_pure _
  | some anchor =>
      exact (DirectSearch.keepsState_calls .callers anchor).bind fun _ => keepsState_pure _

theorem keepsState_outgoingCalls (item : Item) : KeepsState (outgoingCalls item) := by
  refine keepsState_readState.bind ?_
  intro workspace
  cases resolve? workspace.index item with
  | none => exact keepsState_pure _
  | some anchor =>
      exact (DirectSearch.keepsState_calls .callees anchor).bind fun _ => keepsState_pure _

/-- A request for a graph looks for the declaration whatever the language of the document. -/
theorem state_callGraph
    (document : Snapshot) (position : Position) (depth : Nat) (run : Run Workspace) :
    ((callGraph document position depth).perform run).2.state =
      { run.state with index := run.state.index.perform (.find document position) } := by
  rw [← DirectSearch.state_seed]
  exact state_perform_bind _ (DirectSearch.keepsState_grow depth) run

/-- The workspace after a request: at most one call of the index has been made. -/
theorem state_serve
    (run : Run Workspace) (request : Request) :
    (service.serve run request).state =
      { run.state with
        index := run.state.index.run (request.indexCall? service).toList } := by
  cases request with
  | didOpen document => exact state_refresh service document run
  | didChange document => exact state_refresh service document run
  | documentSymbols document => exact state_documentSymbols service document run
  | prepare document position => exact state_prepare service document position run
  | resolve item => rfl
  | incomingCalls item => exact keepsState_incomingCalls item run
  | outgoingCalls item => exact keepsState_outgoingCalls item run
  | callGraph document position depth => exact state_callGraph document position depth run

/-- A run of the service is a run of its index. -/
theorem state_serveAll
    (run : Run Workspace) (requests : List Request) :
    (service.serveAll run requests).state =
      { run.state with
        index := run.state.index.run (requests.filterMap (Request.indexCall? service)) } := by
  induction requests generalizing run with
  | nil => rfl
  | cons request rest inductionHypothesis =>
      have step : service.serveAll run (request :: rest) =
          service.serveAll (service.serve run request) rest := rfl
      rw [step, inductionHypothesis, state_serve]
      cases called : request.indexCall? service with
      | none =>
          rw [List.filterMap_cons_none called]
          rfl
      | some call =>
          rw [List.filterMap_cons_some called]
          rfl

end IndexedService

end CallHierarchy
