import CallHierarchy.Error
import CallHierarchy.Event

/-!
Operations read and change a state, report events and may fail. A failure ends the operation, but
what the state and the events have become until then stays.
-/

namespace CallHierarchy

/-- What an operation works on: a state, and the events so far if anybody listens. -/
structure Run (σ : Type) where
  state : σ
  recording : Bool
  events : Array Event

namespace Run

def start {σ : Type} (state : σ) (recording : Bool) : Run σ :=
  ⟨state, recording, #[]⟩

/-- The run with more events, which are dropped when nobody listens. -/
def report {σ : Type} (run : Run σ) (events : Unit → List Event) : Run σ :=
  if run.recording then { run with events := run.events ++ (events ()).toArray } else run

end Run

/-- An operation on a state of type `σ` with a result of type `α`. -/
abbrev Operation (σ α : Type) := ExceptT GraphError (StateM (Run σ)) α

namespace Operation

variable {σ α : Type}

def perform (operation : Operation σ α) (run : Run σ) : Except GraphError α × Run σ :=
  (ExceptT.run operation).run run

def emit (events : Unit → List Event) : Operation σ Unit :=
  modify fun run => run.report events

def readState : Operation σ σ :=
  return (← get).state

def writeState (state : σ) : Operation σ Unit :=
  modify fun run => { run with state := state }

end Operation

end CallHierarchy
