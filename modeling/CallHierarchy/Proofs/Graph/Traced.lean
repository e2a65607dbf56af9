import CallHierarchy.Graph.Exploration
import CallHierarchy.Proofs.Operation

/-!
Engines that keep a log of their queries. A traced engine notes every query before it answers it
and otherwise does what the engine does; so an exploration with the traced engine ends as the
exploration with the engine itself, and the log tells which queries were made on the way.
-/

namespace CallHierarchy

def Run.withLog {σ τ : Type} (run : Run σ) (log : τ) : Run (σ × τ) :=
  ⟨(run.state, log), run.recording, run.events⟩

theorem Run.exists_withLog
    {σ τ : Type} (run : Run (σ × τ)) :
    ∃ (plain : Run σ) (log : τ), run = plain.withLog log :=
  ⟨⟨run.state.1, run.recording, run.events⟩, run.state.2, rfl⟩

theorem Run.withLog_inj
    {σ τ : Type} {left right : Run σ} {leftLog rightLog : τ}
    (same : left.withLog leftLog = right.withLog rightLog) :
    left = right := by
  cases left
  cases right
  cases same
  rfl

theorem Run.report_withLog
    {σ τ : Type} (run : Run σ) (log : τ) (events : Unit → List Event) :
    (run.withLog log).report events = (run.report events).withLog log := by
  cases listening : run.recording <;> simp [Run.report, Run.withLog, listening]

namespace Operation

variable {σ τ α β : Type}

/-- The operation on the state, with a log beside it that stays as it is. -/
def beside (operation : Operation σ α) : Operation (σ × τ) α :=
  ExceptT.mk fun run =>
    let performed := operation.perform ⟨run.state.1, run.recording, run.events⟩
    (performed.1, performed.2.withLog run.state.2)

@[simp] theorem perform_beside
    (operation : Operation σ α) (run : Run σ) (log : τ) :
    (operation.beside).perform (run.withLog log) =
      ((operation.perform run).1, (operation.perform run).2.withLog log) :=
  rfl

/-- Both operations end in the same way, whatever the log of the first is. -/
def Traces (logged : Operation (σ × τ) α) (plain : Operation σ α) : Prop :=
  ∀ run log, ∃ later,
    logged.perform (run.withLog log) = ((plain.perform run).1, (plain.perform run).2.withLog later)

theorem Traces.perform_plain
    {logged : Operation (σ × τ) α} {plain : Operation σ α} (traces : Traces logged plain)
    {run after : Run σ} {log later : τ} {value : α}
    (performed : logged.perform (run.withLog log) = (.ok value, after.withLog later)) :
    plain.perform run = (.ok value, after) := by
  obtain ⟨last, same⟩ := traces run log
  rw [performed, Prod.mk.injEq] at same
  obtain ⟨sameResult, sameRun⟩ := same
  exact Prod.ext sameResult.symm (Run.withLog_inj sameRun).symm

theorem traces_pure (value : α) : Traces (pure value : Operation (σ × τ) α) (pure value) :=
  fun _ log => ⟨log, rfl⟩

theorem traces_throw
    (error : GraphError) :
    Traces (throw error : Operation (σ × τ) α) (throw error) :=
  fun _ log => ⟨log, rfl⟩

theorem traces_beside
    (operation : Operation σ α) :
    Traces (operation.beside : Operation (σ × τ) α) operation :=
  fun _ log => ⟨log, rfl⟩

theorem traces_emit
    (events : Unit → List Event) :
    Traces (emit events : Operation (σ × τ) Unit) (emit events) := by
  intro run log
  refine ⟨log, ?_⟩
  rw [perform_emit, perform_emit, Run.report_withLog]

theorem Traces.bind
    {logged : Operation (σ × τ) α} {plain : Operation σ α}
    {loggedNext : α → Operation (σ × τ) β} {plainNext : α → Operation σ β}
    (first : Traces logged plain) (second : ∀ value, Traces (loggedNext value) (plainNext value)) :
    Traces (logged >>= loggedNext) (plain >>= plainNext) := by
  intro run log
  obtain ⟨later, same⟩ := first run log
  rcases performed : plain.perform run with ⟨error | value, after⟩
  · rw [performed] at same
    refine ⟨later, ?_⟩
    rw [perform_bind_of_error same, perform_bind_of_error performed]
  · rw [performed] at same
    obtain ⟨last, sameNext⟩ := second value after later
    refine ⟨last, ?_⟩
    rw [perform_bind_of_ok same, perform_bind_of_ok performed, sameNext]

end Operation

/-- A question to an engine: the calls of a symbol in a direction. -/
structure CallQuery (Item : Type) where
  direction : Direction
  item : Item

namespace Engine

open Operation

variable {σ Item : Type}

def note (query : CallQuery Item) : Operation (σ × List (CallQuery Item)) Unit := do
  let state ← readState
  writeState (state.1, state.2 ++ [query])

def traced (engine : Engine σ Item) : Engine (σ × List (CallQuery Item)) Item where
  source := engine.source
  prepare document position := (engine.prepare document position).beside
  incomingCalls item := do
    note ⟨.callers, item⟩
    (engine.incomingCalls item).beside
  outgoingCalls item := do
    note ⟨.callees, item⟩
    (engine.outgoingCalls item).beside
  node := engine.node

@[simp] theorem node_traced (engine : Engine σ Item) : engine.traced.node = engine.node :=
  rfl

end Engine

namespace Exploration

open Operation

variable {σ Item : Type} (engine : Engine σ Item) (direction : Direction)

/-- A query to the traced engine is answered as by the engine, and is last in the log. -/
theorem perform_calls_traced
    (item : Item) (run : Run σ) (log : List (CallQuery Item)) :
    (calls engine.traced direction item).perform (run.withLog log) =
      (((calls engine direction item).perform run).1,
        ((calls engine direction item).perform run).2.withLog (log ++ [⟨direction, item⟩])) := by
  cases direction <;> rfl

theorem expandItem_of_mem
    {progress : Progress} {item : Item} (before : (engine.node item).id ∈ progress.expanded) :
    expandItem engine direction progress item = pure ([], progress) :=
  if_pos before

theorem expandItem_of_not_mem
    {progress : Progress} {item : Item} (fresh : (engine.node item).id ∉ progress.expanded) :
    expandItem engine direction progress item =
      calls engine direction item >>= fun found =>
        pure (found.map Call.symbol,
          ⟨found.foldl (addCall engine direction (engine.node item).id) progress.graph,
            (engine.node item).id :: progress.expanded⟩) :=
  if_neg fresh

theorem traces_calls
    (item : Item) :
    Traces (calls engine.traced direction item) (calls engine direction item) :=
  fun run log => ⟨log ++ [⟨direction, item⟩], perform_calls_traced engine direction item run log⟩

theorem traces_expandItem
    (progress : Progress) (item : Item) :
    Traces (expandItem engine.traced direction progress item)
      (expandItem engine direction progress item) := by
  by_cases before : (engine.node item).id ∈ progress.expanded
  · rw [expandItem_of_mem engine direction before, expandItem_of_mem engine.traced direction before]
    exact traces_pure _
  · rw [expandItem_of_not_mem engine direction before,
      expandItem_of_not_mem engine.traced direction before]
    exact (traces_calls engine direction item).bind fun _ => traces_pure _

theorem traces_expandLevel
    (progress : Progress) (items : List Item) :
    Traces (expandLevel engine.traced direction progress items)
      (expandLevel engine direction progress items) := by
  induction items generalizing progress with
  | nil => exact traces_pure _
  | cons item rest inductionHypothesis =>
      refine (traces_expandItem engine direction progress item).bind ?_
      intro expanded
      exact (inductionHypothesis expanded.2).bind fun _ => traces_pure _

/-- Noting the queries makes no difference to an exploration. -/
theorem traces_explore
    (remaining level : Nat) (frontier : List Item) (progress : Progress) :
    Traces (explore engine.traced direction remaining level frontier progress)
      (explore engine direction remaining level frontier progress) := by
  induction remaining generalizing level frontier progress with
  | zero => exact traces_pure _
  | succ remaining inductionHypothesis =>
      cases frontier with
      | nil => exact (traces_emit _).bind fun _ => traces_pure _
      | cons item rest =>
          refine (traces_expandLevel engine direction progress (item :: rest)).bind ?_
          intro expanded
          exact (traces_emit _).bind fun _ => inductionHypothesis (level + 1) expanded.1 expanded.2

theorem traces_seed
    (document : Snapshot) (position : Position) :
    Traces (seed engine.traced document position) (seed engine document position) := by
  refine (traces_beside (engine.prepare document position)).bind ?_
  rintro (_ | anchor)
  · exact traces_throw _
  · exact traces_pure _

/-- The graph of callers or of callees. -/
theorem traces_seed_explore
    (document : Snapshot) (position : Position) (depth : Nat) :
    Traces
      (seed engine.traced document position >>= fun seeded =>
        exploreFrom engine.traced direction depth seeded.2 seeded.1)
      (seed engine document position >>= fun seeded =>
        exploreFrom engine direction depth seeded.2 seeded.1) :=
  (traces_seed engine document position).bind fun seeded =>
    traces_explore engine direction depth 0 [seeded.2] ⟨seeded.1, []⟩

theorem traces_callGraph
    (document : Snapshot) (position : Position) (depth : Nat) :
    Traces (callGraph engine.traced document position depth)
      (callGraph engine document position depth) := by
  apply (traces_seed engine document position).bind
  intro seeded
  apply (traces_explore engine .callers depth 0 [seeded.2] ⟨seeded.1, []⟩).bind
  intro callers
  exact traces_explore engine .callees depth 0 [seeded.2] ⟨callers, []⟩

end Exploration

end CallHierarchy
