import CallHierarchy.Host.Basic

/-!
Hosts given by tables. The first row that fits a question answers it, rows of failures before all
others; a question that no row fits has an empty answer.
-/

namespace CallHierarchy

/-- The questions that a row fits: those about its document and at its position, if it names any. -/
structure Pattern where
  uri : Option Text
  position : Option Position
  deriving DecidableEq, Repr

def Pattern.fits (pattern : Pattern) (query : Query) : Bool :=
  pattern.uri.all (· = query.uri.text) &&
    pattern.position.all fun position => query.position? = some position

structure HostTable where
  definitions : List (Pattern × List Location)
  references : List (Pattern × List Location)
  outlines : List (Pattern × List Symbol)
  failures : List (Pattern × HostError)

namespace HostTable

/-- The answer of the first row that fits. -/
def lookUp? {α : Type} (rows : List (Pattern × α)) (query : Query) : Option α :=
  (rows.find? fun row => row.1.fits query).map Prod.snd

def answer {α : Type} (table : HostTable) (rows : List (Pattern × List α)) (query : Query) :
    Except HostError (List α) :=
  let failures := table.failures.filter fun row => row.2.operation = query.operation
  match lookUp? failures query with
  | some error => .error error
  | none => .ok ((lookUp? rows query).getD [])

def host (table : HostTable) : Host where
  definitions uri position := table.answer table.definitions (.definitions uri position)
  references uri position := table.answer table.references (.references uri position)
  documentSymbols uri := table.answer table.outlines (.documentSymbols uri)

end HostTable

end CallHierarchy
