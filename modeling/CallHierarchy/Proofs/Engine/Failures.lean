import CallHierarchy.Host.HostTable
import CallHierarchy.Proofs.Engine.Delegation
import CallHierarchy.Proofs.Engine.ReadingOrder
import CallHierarchy.Proofs.Graph.Growth

/-!
Failures of a host. Whatever is asked on the way, an operation ends with the first question that
fails and passes its error on; so the failing question is the last one in the log. A search for
callers that meets no failure asks for the references and then, in reading order, for the outline
around each of them.
-/

namespace CallHierarchy

def hostError? {α : Type} : Except HostError α → Option HostError
  | .ok _ => none
  | .error error => some error

def Host.failure? (host : Host) : Query → Option HostError
  | .definitions uri position => hostError? (host.definitions uri position)
  | .references uri position => hostError? (host.references uri position)
  | .documentSymbols uri => hostError? (host.documentSymbols uri)

namespace Delegation

open Operation

/-- How the questions of an operation and its result fit together. -/
structure Surfaced (host : Host) {α : Type} (asked : QueryLog) (result : Except GraphError α) :
    Prop where
  /-- The operation fails because of the host exactly when a question fails. -/
  fails_iff : (∃ error, result = .error (.host error)) ↔
    ∃ query ∈ asked, (host.failure? query).isSome = true
  /-- Its error is that of the last question, and no question before the last one fails. -/
  last : ∀ error, result = .error (.host error) →
    ∃ earlier query, asked = earlier ++ [query] ∧ host.failure? query = some error ∧
      ∀ before ∈ earlier, host.failure? before = none

/-- In every run, the operation puts some questions at the end of the log, and the failures among
them surface. -/
def Surfaces (host : Host) {α : Type} (operation : Operation QueryLog α) : Prop :=
  ∀ run, ∃ asked, (operation.perform run).2.state = run.state ++ asked ∧
    Surfaced host asked (operation.perform run).1

section Surfaces

variable {host : Host} {α β : Type}

theorem Surfaced.failure?_eq_none
    {asked : QueryLog} {result : Except GraphError α} (surfaced : Surfaced host asked result)
    (other : ∀ error, result ≠ .error (.host error)) :
    ∀ query ∈ asked, host.failure? query = none := by
  intro query member
  by_contra fails
  have someFailure : (host.failure? query).isSome = true := Option.isSome_iff_ne_none.2 fails
  obtain ⟨error, isError⟩ := surfaced.fails_iff.2 ⟨query, member, someFailure⟩
  exact other error isError

theorem surfaced_nil
    {result : Except GraphError α} (other : ∀ error, result ≠ .error (.host error)) :
    Surfaced host [] result := by
  constructor
  · constructor
    · intro hostFailed
      obtain ⟨error, isError⟩ := hostFailed
      exact absurd isError (other error)
    · simp
  · intro error isError
    exact absurd isError (other error)

/-- What asks nothing, and never fails because of a host, has nothing to surface. -/
theorem surfaces_of_keepsState
    {operation : Operation QueryLog α} (kept : KeepsState operation)
    (other : ∀ run error, (operation.perform run).1 ≠ .error (.host error)) :
    Surfaces host operation := by
  intro run
  refine ⟨[], ?_, surfaced_nil (other run)⟩
  rw [kept run, List.append_nil]

theorem surfaces_pure (value : α) : Surfaces host (pure value : Operation QueryLog α) :=
  surfaces_of_keepsState (keepsState_pure value) (by simp)

theorem surfaces_emit
    (events : Unit → List Event) :
    Surfaces host (emit events : Operation QueryLog Unit) :=
  surfaces_of_keepsState (keepsState_emit events) (by simp)

theorem surfaces_ask
    {query : Query} {answer : Except HostError α}
    (isAnswer : host.failure? query = hostError? answer) :
    Surfaces host (ask query answer) := by
  intro run
  refine ⟨[query], ?_, ?_⟩
  · cases answer with
    | ok value => rfl
    | error error => rfl
  · cases answer with
    | ok value =>
        have answered : host.failure? query = none := isAnswer
        have performed : (ask query (.ok value)).perform run =
            (.ok value, { run with state := run.state ++ [query] }) := rfl
        rw [performed]
        constructor
        · simp [answered]
        · simp
    | error error =>
        have failed : host.failure? query = some error := isAnswer
        have performed : (ask query (.error error : Except HostError α)).perform run =
            (.error (.host error), { run with state := run.state ++ [query] }) := rfl
        rw [performed]
        constructor
        · simp [failed]
        · intro other isError
          cases isError
          exact ⟨[], query, rfl, failed, by simp⟩

theorem Surfaced.of_error
    {asked : QueryLog} {error : GraphError}
    (surfaced : Surfaced host asked (.error error : Except GraphError α)) :
    Surfaced host asked (.error error : Except GraphError β) where
  fails_iff := by
    rw [← surfaced.fails_iff]
    simp
  last hostError isError := by
    apply surfaced.last hostError
    cases isError
    rfl

/-- Questions that were answered before change nothing. -/
theorem Surfaced.append
    {earlier asked : QueryLog} {result : Except GraphError α}
    (answered : ∀ query ∈ earlier, host.failure? query = none)
    (surfaced : Surfaced host asked result) :
    Surfaced host (earlier ++ asked) result where
  fails_iff := by
    rw [surfaced.fails_iff]
    constructor
    · intro someFails
      obtain ⟨query, member, fails⟩ := someFails
      exact ⟨query, List.mem_append_right earlier member, fails⟩
    · intro someFails
      obtain ⟨query, member, fails⟩ := someFails
      rcases List.mem_append.1 member with before | now
      · simp [answered query before] at fails
      · exact ⟨query, now, fails⟩
  last error isError := by
    obtain ⟨before, query, askedEq, fails, beforeAnswered⟩ := surfaced.last error isError
    refine ⟨earlier ++ before, query, ?_, fails, ?_⟩
    · rw [askedEq, List.append_assoc]
    · intro other member
      exact (List.mem_append.1 member).elim (answered other) (beforeAnswered other)

/-- If the failures in both steps of a sequence surface, so do those of the sequence. -/
theorem Surfaces.bind
    {operation : Operation QueryLog α} {next : α → Operation QueryLog β}
    (first : Surfaces host operation) (second : ∀ value, Surfaces host (next value)) :
    Surfaces host (operation >>= next) := by
  intro run
  obtain ⟨asked, log, surfaced⟩ := first run
  rcases performed : operation.perform run with ⟨error | value, middle⟩
  · rw [performed] at log surfaced
    rw [perform_bind_of_error performed]
    exact ⟨asked, log, surfaced.of_error⟩
  · rw [performed] at log surfaced
    rw [perform_bind_of_ok performed]
    obtain ⟨later, laterLog, laterSurfaced⟩ := second value middle
    have answered : ∀ query ∈ asked, host.failure? query = none :=
      surfaced.failure?_eq_none (by simp)
    refine ⟨asked ++ later, ?_, laterSurfaced.append answered⟩
    rw [laterLog, log, List.append_assoc]

theorem compositional_surfaces (host : Host) : Compositional (@Surfaces host) :=
  ⟨surfaces_pure, surfaces_emit, Surfaces.bind⟩

/-! ## Questions for symbols and callers -/

theorem surfaces_symbolAt
    (uri : Uri) (position : Position) :
    Surfaces host (symbolAt host uri position) := by
  have asks : Surfaces host (ask (.documentSymbols uri) (host.documentSymbols uri)) :=
    surfaces_ask rfl
  apply asks.bind
  intro outline
  cases Symbol.enclosing? outline position with
  | some symbol => exact surfaces_pure _
  | none => exact (surfaces_emit _).bind fun _ => surfaces_pure _

theorem surfaces_prepare
    (uri : Uri) (position : Position) :
    Surfaces host (prepare host uri position) := by
  have asks : Surfaces host (ask (.definitions uri position) (host.definitions uri position)) :=
    surfaces_ask rfl
  apply asks.bind
  intro definitions
  cases definitions with
  | nil => exact (surfaces_emit _).bind fun _ => surfaces_pure _
  | cons definition rest => exact surfaces_symbolAt definition.uri definition.range.start

theorem surfaces_resolve
    (locations : List Location) :
    Surfaces host (resolve host locations) := by
  induction locations with
  | nil => exact surfaces_pure _
  | cons location rest inductionHypothesis =>
      apply (surfaces_symbolAt location.uri location.range.start).bind
      intro found
      apply inductionHypothesis.bind
      intro later
      cases found with
      | none => exact surfaces_pure _
      | some symbol => exact surfaces_pure _

theorem surfaces_incomingCalls
    (anchor : ResolvedSymbol) :
    Surfaces host (incomingCalls host anchor) := by
  have asks : Surfaces host (ask (.references anchor.uri anchor.selectionRange.start)
      (host.references anchor.uri anchor.selectionRange.start)) :=
    surfaces_ask rfl
  apply asks.bind
  intro references
  by_cases noReferences : references.isEmpty = true
  · rw [if_pos noReferences]
    exact (surfaces_emit _).bind fun _ => surfaces_pure _
  · rw [if_neg noReferences]
    apply (surfaces_resolve (References.inReadingOrder references)).bind
    intro resolved
    exact (surfaces_emit _).bind fun _ => surfaces_pure _

theorem surfaces_exploreFrom
    (direction : Direction) (depth : Nat) (anchor : ResolvedSymbol) (graph : CallGraph) :
    Surfaces host (Exploration.exploreFrom (engine host) direction depth anchor graph) := by
  have answered : ∀ item, Surfaces host (Exploration.calls (engine host) direction item) := by
    intro item
    cases direction with
    | callers => exact surfaces_incomingCalls item
    | callees => exact surfaces_pure _
  exact Exploration.compositional_explore (compositional_surfaces host) answered depth 0 [anchor]
    ⟨graph, []⟩

theorem surfaces_seed
    (document : Snapshot) (position : Position) :
    Surfaces host (Exploration.seed (engine host) document position) := by
  apply (surfaces_prepare document.uri position).bind
  intro found
  cases found with
  | none => exact surfaces_of_keepsState (keepsState_throw _) (by simp)
  | some anchor => exact surfaces_pure _

end Surfaces

/-! ## Searches that meet no failure -/

section Completes

variable {α β : Type}

/-- In every run, the operation asks exactly these questions and has a result, or fails because of
the host. -/
def Completes (operation : Operation QueryLog α) (queries : QueryLog) : Prop :=
  ∀ run,
    (∃ value after, operation.perform run = (.ok value, after) ∧
      after.state = run.state ++ queries) ∨
      ∃ error after, operation.perform run = (.error (.host error), after)

theorem completes_pure (value : α) : Completes (pure value : Operation QueryLog α) [] :=
  fun run => Or.inl ⟨value, run, rfl, (List.append_nil _).symm⟩

theorem completes_emit
    (events : Unit → List Event) :
    Completes (emit events : Operation QueryLog Unit) [] := by
  intro run
  refine Or.inl ⟨(), run.report events, rfl, ?_⟩
  have kept := keepsState_emit events run
  rw [perform_emit] at kept
  rw [kept, List.append_nil]

theorem completes_ask
    (query : Query) (answer : Except HostError α) :
    Completes (ask query answer) [query] := by
  intro run
  cases answer with
  | ok value => exact Or.inl ⟨value, _, rfl, rfl⟩
  | error error => exact Or.inr ⟨error, _, rfl⟩

theorem Completes.bind
    {operation : Operation QueryLog α} {next : α → Operation QueryLog β}
    {queries later : QueryLog} (first : Completes operation queries)
    (second : ∀ value, Completes (next value) later) :
    Completes (operation >>= next) (queries ++ later) := by
  intro run
  rcases first run with ⟨value, middle, performed, log⟩ | ⟨error, middle, failed⟩
  · rw [perform_bind_of_ok performed]
    rcases second value middle with ⟨result, after, nextPerformed, nextLog⟩ | failed
    · refine Or.inl ⟨result, after, nextPerformed, ?_⟩
      rw [nextLog, log, List.append_assoc]
    · exact Or.inr failed
  · exact Or.inr ⟨error, middle, perform_bind_of_error failed⟩

theorem completes_symbolAt
    (host : Host) (uri : Uri) (position : Position) :
    Completes (symbolAt host uri position) [.documentSymbols uri] := by
  have asks := completes_ask (.documentSymbols uri) (host.documentSymbols uri)
  rw [← List.append_nil [Query.documentSymbols uri]]
  apply asks.bind
  intro outline
  cases Symbol.enclosing? outline position with
  | some symbol => exact completes_pure _
  | none => exact (completes_emit _).bind fun _ => completes_pure _

/-- One outline is asked for around each reference. -/
theorem completes_resolve
    (host : Host) (locations : List Location) :
    Completes (resolve host locations)
      (locations.map fun location => .documentSymbols location.uri) := by
  induction locations with
  | nil => exact completes_pure _
  | cons location rest inductionHypothesis =>
      apply (completes_symbolAt host location.uri location.range.start).bind
      intro found
      rw [← List.append_nil (rest.map _)]
      apply inductionHypothesis.bind
      intro later
      cases found with
      | none => exact completes_pure _
      | some symbol => exact completes_pure _

end Completes

/-- An answer decides which questions follow. -/
theorem ask_bind_cases
    {α β : Type} {query : Query} {answer : Except HostError α}
    {next : α → Operation QueryLog β} {later : α → QueryLog}
    (second : ∀ value, Completes (next value) (later value)) (run : Run QueryLog) :
    (∃ value result after, answer = .ok value ∧
      (ask query answer >>= next).perform run = (.ok result, after) ∧
        after.state = run.state ++ (query :: later value)) ∨
      ∃ error after, (ask query answer >>= next).perform run = (.error (.host error), after) := by
  cases answer with
  | error error =>
      have failed : (ask query (.error error : Except HostError α)).perform run =
          (.error (.host error), { run with state := run.state ++ [query] }) := rfl
      exact Or.inr ⟨error, _, perform_bind_of_error failed⟩
  | ok value =>
      rw [perform_bind_of_ok (perform_ask_ok query value run)]
      rcases second value { run with state := run.state ++ [query] } with
        ⟨result, after, performed, log⟩ | failed
      · refine Or.inl ⟨value, result, after, rfl, performed, ?_⟩
        rw [log, List.append_assoc, List.singleton_append]
      · exact Or.inr failed

/-- The questions of a search for callers, given the references that the host lists. -/
def searchQueries (anchor : ResolvedSymbol) (references : List Location) : QueryLog :=
  .references anchor.uri anchor.selectionRange.start ::
    (References.byFile references).map fun location => .documentSymbols location.uri

/-- A search for callers asks all its questions and has a result, or fails because of the host. -/
theorem incomingCalls_cases
    (host : Host) (anchor : ResolvedSymbol) (run : Run QueryLog) :
    (∃ references calls after,
      host.references anchor.uri anchor.selectionRange.start = .ok references ∧
        (incomingCalls host anchor).perform run = (.ok calls, after) ∧
          after.state = run.state ++ searchQueries anchor references) ∨
      ∃ error after, (incomingCalls host anchor).perform run = (.error (.host error), after) := by
  apply ask_bind_cases
  intro references
  by_cases noReferences : references = []
  · subst noReferences
    exact (completes_emit _).bind fun _ => completes_pure _
  · rw [if_neg (by rwa [List.isEmpty_iff]), ← References.inReadingOrder_eq_byFile,
      ← List.append_nil (List.map _ _)]
    apply (completes_resolve host (References.inReadingOrder references)).bind
    intro resolved
    exact (completes_emit _).bind fun _ => completes_pure _

/-- An operation that asks a host fails because of it exactly when one of the questions fails, which
is then the last one asked, and with its error. A search for callers that meets no failure asks for
the references and then for one outline around each of them, file by file in the order in which the
files first appear and by start within a file. -/
theorem host_failures_surface_and_end_operations
    (host : Host) :
    (∀ uri position, Surfaces host (symbolAt host uri position)) ∧
      (∀ uri position, Surfaces host (prepare host uri position)) ∧
      (∀ anchor, Surfaces host (incomingCalls host anchor)) ∧
      (∀ document position depth,
        Surfaces host (Exploration.callersGraph (engine host) document position depth)) ∧
      (∀ document position depth,
        Surfaces host (Exploration.callGraph (engine host) document position depth)) ∧
      ∀ anchor run asked,
        ((incomingCalls host anchor).perform run).2.state = run.state ++ asked →
        (∀ query ∈ asked, host.failure? query = none) →
          ∃ references calls,
            host.references anchor.uri anchor.selectionRange.start = .ok references ∧
              ((incomingCalls host anchor).perform run).1 = .ok calls ∧
                asked = searchQueries anchor references := by
  refine ⟨surfaces_symbolAt, surfaces_prepare, surfaces_incomingCalls, ?_, ?_, ?_⟩
  · intro document position depth
    apply (surfaces_seed document position).bind
    intro seeded
    exact surfaces_exploreFrom .callers depth seeded.2 seeded.1
  · intro document position depth
    apply (surfaces_seed document position).bind
    intro seeded
    apply (surfaces_exploreFrom .callers depth seeded.2 seeded.1).bind
    intro callers
    exact surfaces_exploreFrom .callees depth seeded.2 callers
  · intro anchor run asked log answered
    rcases incomingCalls_cases host anchor run with
      ⟨references, calls, after, listed, performed, afterLog⟩ | ⟨error, after, failed⟩
    · refine ⟨references, calls, listed, by rw [performed], ?_⟩
      rw [performed, afterLog] at log
      exact (List.append_cancel_left log).symm
    · -- A failure because of the host would be that of one of the questions.
      have surfaces : Surfaces host (incomingCalls host anchor) := surfaces_incomingCalls anchor
      obtain ⟨sameAsked, sameLog, surfaced⟩ := surfaces run
      rw [log] at sameLog
      obtain rfl := List.append_cancel_left sameLog
      rw [failed] at surfaced
      obtain ⟨query, member, fails⟩ := surfaced.fails_iff.1 ⟨error, rfl⟩
      simp [answered query member] at fails

def referenceIn (file : Uri) (line : Nat) : Location :=
  ⟨file, Range.onLine line 0 1⟩

def firstFile : Uri := ⟨['b'], Eq.refl true⟩

def secondFile : Uri := ⟨['a'], Eq.refl true⟩

def thirdFile : Uri := ⟨['c'], Eq.refl true⟩

/-- A host that lists references in three files, with some failures. -/
def threeFiles (failures : List (Pattern × HostError)) : HostTable :=
  { definitions := []
    references := [(⟨none, none⟩, [referenceIn firstFile 5, referenceIn secondFile 1,
      referenceIn thirdFile 3, referenceIn firstFile 2])]
    outlines := []
    failures := failures }

def missingOutline : HostError :=
  ⟨.documentSymbols, "gone".toList, some "disk".toList⟩

def soughtSymbol : ResolvedSymbol :=
  ⟨firstFile, .mk
    { name := ['f']
      detail := none
      kind := .function
      tags := none
      deprecated := none
      range := Range.onLine 0 0 9
      selectionRange := Range.onLine 0 5 6 }
    none⟩

theorem threeFiles_failures_surface :
    let failing := (threeFiles [(⟨some ['a'], none⟩, missingOutline)]).host
    let answering := (threeFiles []).host
    let failed := (incomingCalls failing soughtSymbol).perform (.start [] false)
    let answered := (incomingCalls answering soughtSymbol).perform (.start [] false)
    failed.1 = .error (.host missingOutline) ∧
      failed.2.state =
        [.references firstFile ⟨0, 5⟩, .documentSymbols firstFile, .documentSymbols firstFile,
          .documentSymbols secondFile] ∧
      (∃ asked, failed.2.state = [] ++ asked ∧ Surfaced failing asked failed.1) ∧
      (∀ query ∈ answered.2.state, answering.failure? query = none) ∧
      answered.2.state.length = 5 ∧
      ∃ references calls,
        answering.references firstFile ⟨0, 5⟩ = .ok references ∧ answered.1 = .ok calls ∧
          answered.2.state = searchQueries soughtSymbol references := by
  intro failing answering failed answered
  obtain ⟨_, _, surfaces, _⟩ := host_failures_surface_and_end_operations failing
  obtain ⟨_, _, _, _, _, searches⟩ := host_failures_surface_and_end_operations answering
  have noFailure : ∀ query ∈ answered.2.state, answering.failure? query = none := by
    decide +kernel
  exact ⟨rfl, by decide +kernel, surfaces soughtSymbol (.start [] false), noFailure,
    by decide +kernel, searches soughtSymbol (.start [] false) _ rfl noFailure⟩

end Delegation

end CallHierarchy
