import CallHierarchy.Operation

/-!
Carrying out operations step by step. The result of a sequence is read off from the results of its
parts; a failure ends the sequence and keeps the run as it is.
-/

namespace CallHierarchy.Operation

variable {σ α β : Type}

@[simp] theorem perform_pure
    (value : α) (run : Run σ) :
    perform (pure value : Operation σ α) run = (.ok value, run) :=
  rfl

@[simp] theorem perform_throw
    (error : GraphError) (run : Run σ) :
    perform (throw error : Operation σ α) run = (.error error, run) :=
  rfl

theorem perform_bind_of_ok
    {operation : Operation σ α} {next : α → Operation σ β} {run after : Run σ} {value : α}
    (performed : perform operation run = (.ok value, after)) :
    perform (operation >>= next) run = perform (next value) after := by
  change ((ExceptT.bindCont next (operation.perform run).1).run (operation.perform run).2) = _
  rw [performed]
  rfl

theorem perform_bind_of_error
    {operation : Operation σ α} {next : α → Operation σ β} {run after : Run σ}
    {error : GraphError}
    (performed : perform operation run = (.error error, after)) :
    perform (operation >>= next) run = (.error error, after) := by
  change ((ExceptT.bindCont next (operation.perform run).1).run (operation.perform run).2) = _
  rw [performed]
  rfl

theorem perform_bind_ok
    {operation : Operation σ α} {next : α → Operation σ β} {run after : Run σ} {result : β}
    (performed : perform (operation >>= next) run = (.ok result, after)) :
    ∃ value middle, perform operation run = (.ok value, middle) ∧
      perform (next value) middle = (.ok result, after) := by
  rcases first : perform operation run with ⟨_ | value, middle⟩
  · rw [perform_bind_of_error first] at performed
    cases performed
  · rw [perform_bind_of_ok first] at performed
    exact ⟨value, middle, rfl, performed⟩

/-- Converting the result of an operation leaves its failures and its run as they are. -/
theorem perform_bind_pure
    (operation : Operation σ α) (convert : α → β) (run : Run σ) :
    perform (operation >>= fun value => pure (convert value)) run =
      ((operation.perform run).1.map convert, (operation.perform run).2) := by
  rcases performed : operation.perform run with ⟨error | value, after⟩
  · rw [perform_bind_of_error performed]
    rfl
  · rw [perform_bind_of_ok performed]
    rfl

@[simp] theorem perform_emit
    (events : Unit → List Event) (run : Run σ) :
    perform (emit events) run = (.ok (), run.report events) :=
  rfl

@[simp] theorem perform_readState
    (run : Run σ) :
    perform readState run = (.ok run.state, run) :=
  rfl

@[simp] theorem perform_writeState
    (state : σ) (run : Run σ) :
    perform (writeState state) run = (.ok (), { run with state := state }) :=
  rfl

def Succeeds (operation : Operation σ α) : Prop :=
  ∀ run, ∃ value after, operation.perform run = (.ok value, after)

theorem succeeds_pure (value : α) : Succeeds (pure value : Operation σ α) :=
  fun run => ⟨value, run, rfl⟩

theorem succeeds_emit (events : Unit → List Event) : Succeeds (emit events : Operation σ Unit) :=
  fun run => ⟨(), run.report events, rfl⟩

theorem Succeeds.bind
    {operation : Operation σ α} {next : α → Operation σ β}
    (first : Succeeds operation) (second : ∀ value, Succeeds (next value)) :
    Succeeds (operation >>= next) := by
  intro run
  obtain ⟨value, middle, performed⟩ := first run
  obtain ⟨result, after, nextPerformed⟩ := second value middle
  exact ⟨result, after, (perform_bind_of_ok performed).trans nextPerformed⟩

/-- The operation leaves the state as it is, whether it has a result or fails. -/
def KeepsState (operation : Operation σ α) : Prop :=
  ∀ run, (operation.perform run).2.state = run.state

theorem keepsState_pure (value : α) : KeepsState (pure value : Operation σ α) :=
  fun _ => rfl

theorem keepsState_throw (error : GraphError) : KeepsState (throw error : Operation σ α) :=
  fun _ => rfl

theorem keepsState_readState : KeepsState (readState : Operation σ σ) :=
  fun _ => rfl

theorem keepsState_emit
    (events : Unit → List Event) :
    KeepsState (emit events : Operation σ Unit) := by
  intro run
  rw [perform_emit, Run.report]
  split
  · rfl
  · rfl

/-- A sequence whose later steps keep the state leaves the one that its first step leaves. -/
theorem state_perform_bind
    (operation : Operation σ α) {next : α → Operation σ β}
    (kept : ∀ value, KeepsState (next value)) (run : Run σ) :
    ((operation >>= next).perform run).2.state = (operation.perform run).2.state := by
  rcases performed : operation.perform run with ⟨error | value, middle⟩
  · rw [perform_bind_of_error performed]
  · rw [perform_bind_of_ok performed, kept value middle]

theorem KeepsState.bind
    {operation : Operation σ α} {next : α → Operation σ β}
    (first : KeepsState operation) (second : ∀ value, KeepsState (next value)) :
    KeepsState (operation >>= next) :=
  fun run => (state_perform_bind operation second run).trans (first run)

/-- A property that trivial operations and reports have, and sequences if their steps have it. -/
structure Compositional (property : {α : Type} → Operation σ α → Prop) : Prop where
  pure : ∀ {α : Type} (value : α), property (pure value)
  emit : ∀ events : Unit → List Event, property (emit events)
  bind : ∀ {α β : Type} {operation : Operation σ α} {next : α → Operation σ β},
    property operation → (∀ value, property (next value)) → property (operation >>= next)

theorem compositional_succeeds : Compositional (@Succeeds σ) :=
  ⟨succeeds_pure, succeeds_emit, Succeeds.bind⟩

theorem compositional_keepsState : Compositional (@KeepsState σ) :=
  ⟨keepsState_pure, keepsState_emit, KeepsState.bind⟩

section Yields

variable {holds : σ → Prop}

/-- In runs whose state has a property, the operation has a proper result and keeps the property. -/
def Yields (holds : σ → Prop) (proper : α → Prop) (operation : Operation σ α) : Prop :=
  ∀ run, holds run.state →
    ∃ value after, operation.perform run = (.ok value, after) ∧ holds after.state ∧ proper value

theorem yields_pure
    {proper : α → Prop} {value : α} (isProper : proper value) :
    Yields holds proper (pure value) :=
  fun run stateHolds => ⟨value, run, rfl, stateHolds, isProper⟩

theorem yields_emit
    (events : Unit → List Event) :
    Yields holds (fun _ => True) (emit events) := by
  intro run stateHolds
  refine ⟨(), run.report events, rfl, ?_, trivial⟩
  rwa [← keepsState_emit events run] at stateHolds

theorem Yields.imp
    {proper weaker : α → Prop} {operation : Operation σ α} (yields : Yields holds proper operation)
    (implied : ∀ value, proper value → weaker value) :
    Yields holds weaker operation := by
  intro run stateHolds
  obtain ⟨value, after, performed, stillHolds, isProper⟩ := yields run stateHolds
  exact ⟨value, after, performed, stillHolds, implied value isProper⟩

theorem Yields.bind
    {proper : α → Prop} {properNext : β → Prop} {operation : Operation σ α}
    {next : α → Operation σ β} (first : Yields holds proper operation)
    (second : ∀ value, proper value → Yields holds properNext (next value)) :
    Yields holds properNext (operation >>= next) := by
  intro run stateHolds
  obtain ⟨value, middle, performed, stillHolds, isProper⟩ := first run stateHolds
  rw [perform_bind_of_ok performed]
  exact second value isProper middle stillHolds

end Yields

section Agree

variable {holds : σ → Prop}

/-- In runs whose state has a property, both operations do the same, keep the property and give
proper results. -/
def Agree (holds : σ → Prop) (proper : α → Prop) (left right : Operation σ α) : Prop :=
  ∀ run, holds run.state →
    left.perform run = right.perform run ∧ holds (left.perform run).2.state ∧
      ∀ value, (left.perform run).1 = .ok value → proper value

theorem agree_pure
    {proper : α → Prop} {value : α} (isProper : proper value) :
    Agree holds proper (pure value) (pure value) := by
  intro run stateHolds
  refine ⟨rfl, stateHolds, ?_⟩
  rintro _ ⟨⟩
  exact isProper

theorem agree_emit
    (events : Unit → List Event) :
    Agree holds (fun _ => True) (emit events) (emit events) := by
  intro run stateHolds
  refine ⟨rfl, ?_, fun _ _ => trivial⟩
  rwa [keepsState_emit events run]

theorem Agree.bind
    {proper : α → Prop} {properNext : β → Prop} {left right : Operation σ α}
    {leftNext rightNext : α → Operation σ β} (first : Agree holds proper left right)
    (second : ∀ value, proper value →
      Agree holds properNext (leftNext value) (rightNext value)) :
    Agree holds properNext (left >>= leftNext) (right >>= rightNext) := by
  intro run stateHolds
  obtain ⟨same, stillHolds, isProper⟩ := first run stateHolds
  rcases performed : left.perform run with ⟨error | value, middle⟩
  · rw [performed] at same stillHolds
    rw [perform_bind_of_error performed, perform_bind_of_error same.symm]
    exact ⟨rfl, stillHolds, by simp⟩
  · rw [performed] at same stillHolds isProper
    rw [perform_bind_of_ok performed, perform_bind_of_ok same.symm]
    exact second value (isProper value rfl) middle stillHolds

end Agree

end CallHierarchy.Operation
