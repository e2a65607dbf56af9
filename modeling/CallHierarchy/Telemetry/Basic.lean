import CallHierarchy.Telemetry.Filter
import CallHierarchy.Telemetry.Line

/-!
Telemetry: whether events are written, which ones and how. The first subscriber that could be
installed stays for good; later settings change nothing.
-/

namespace CallHierarchy

/-- Who writes events: those that the filter lets through, in a format. -/
structure Subscriber where
  filter : EventFilter
  format : LogFormat
  deriving DecidableEq, Repr

inductive TelemetryError where
  | filter (error : FilterError)
  /-- Somebody else installed a subscriber before. -/
  | occupied
  deriving DecidableEq, Repr

def TelemetryError.message : TelemetryError → String
  | filter error => "invalid log filter: " ++ error.message
  | occupied =>
      "failed to install telemetry subscriber: " ++
        "a global default trace dispatcher has already been set"

/-- The subscriber of a process, and whether a foreign one is in its place. -/
structure Telemetry where
  foreign : Bool
  installed : Option Subscriber
  deriving DecidableEq, Repr

namespace Subscriber

def ofSettings (settings : Settings) : Except TelemetryError Subscriber :=
  match EventFilter.ofText settings.logFilter with
  | .ok filter => .ok ⟨filter, settings.logFormat⟩
  | .error error => .error (.filter error)

def lines (subscriber : Subscriber) (events : List Event) : List Text :=
  (events.filter subscriber.filter.allows).map (Event.line subscriber.format)

end Subscriber

namespace Telemetry

/-- Installs the subscriber that settings ask for, unless one is installed. -/
def initialise (telemetry : Telemetry) (settings : Settings) :
    Except TelemetryError Unit × Telemetry :=
  match telemetry.installed with
  | some _ => (.ok (), telemetry)
  | none =>
      match Subscriber.ofSettings settings with
      | .error error => (.error error, telemetry)
      | .ok subscriber =>
          if telemetry.foreign then (.error .occupied, telemetry)
          else (.ok (), { telemetry with installed := some subscriber })

def lines (telemetry : Telemetry) (events : List Event) : List Text :=
  match telemetry.installed with
  | some subscriber => subscriber.lines events
  | none => []

end Telemetry

end CallHierarchy
