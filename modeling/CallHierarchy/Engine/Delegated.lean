import CallHierarchy.Engine.Basic
import CallHierarchy.Engine.References
import CallHierarchy.Host.Basic
import CallHierarchy.Outline.Enclosing

/-!
Calls found by asking a host. The references to a symbol, in reading order, are mapped to the
symbols that enclose them; neighbours from symbols with the same range are one call, and references
of the symbol to itself are dropped. Calls out of a symbol are never found this way.
-/

namespace CallHierarchy

/-- A symbol of an outline with the document it is from. -/
structure ResolvedSymbol where
  uri : Uri
  symbol : Symbol
  deriving DecidableEq

namespace ResolvedSymbol

def name (resolved : ResolvedSymbol) : Text :=
  resolved.symbol.info.name

def range (resolved : ResolvedSymbol) : Range :=
  resolved.symbol.range

def selectionRange (resolved : ResolvedSymbol) : Range :=
  resolved.symbol.info.selectionRange

def node (resolved : ResolvedSymbol) : CallNode :=
  { name := resolved.name
    kind := .ofCode resolved.symbol.info.kind
    uri := resolved.uri
    range := resolved.range
    selectionRange := resolved.selectionRange
    container := resolved.symbol.info.detail }

end ResolvedSymbol

/-- The questions asked so far, in order. -/
abbrev QueryLog := List Query

namespace Delegation

open Operation

/-- Puts a question on record and takes the host's answer to it. -/
def ask {α : Type} (query : Query) (answer : Except HostError α) : Operation QueryLog α := do
  writeState ((← readState) ++ [query])
  match answer with
  | .ok result => return result
  | .error error => throw (.host error)

def event (message : String) (fields : List (String × FieldValue)) : Event :=
  { level := .debug, target := .delegation, message := message, fields := fields }

def symbolAt (host : Host) (uri : Uri) (position : Position) :
    Operation QueryLog (Option ResolvedSymbol) := do
  let outline ← ask (.documentSymbols uri) (host.documentSymbols uri)
  match Symbol.enclosing? outline position with
  | some symbol => return some ⟨uri, symbol⟩
  | none =>
      emit fun _ => [event "no enclosing symbol"
        [("uri", .text uri.text), ("line", .number position.line),
          ("character", .number position.character)]]
      return none

/-- The symbol that encloses the first definition of what stands at a position. -/
def prepare (host : Host) (uri : Uri) (position : Position) :
    Operation QueryLog (Option ResolvedSymbol) := do
  let definitions ← ask (.definitions uri position) (host.definitions uri position)
  match definitions with
  | definition :: _ => symbolAt host definition.uri definition.range.start
  | [] =>
      emit fun _ => [event "no definition found"
        [("uri", .text uri.text), ("line", .number position.line)]]
      return none

/-- One call for each reference that some symbol encloses. -/
def resolve (host : Host) : List Location → Operation QueryLog (List (Call ResolvedSymbol))
  | [] => return []
  | location :: rest => do
      let found ← symbolAt host location.uri location.range.start
      let later ← resolve host rest
      match found with
      | some symbol => return ⟨symbol, [location]⟩ :: later
      | none => return later

/-- Adds a call to those kept so far, the last of which takes its sites if the ranges of the two
symbols are equal. The calls are given from the last to the first. -/
def merge (kept : List (Call ResolvedSymbol)) (call : Call ResolvedSymbol) :
    List (Call ResolvedSymbol) :=
  match kept with
  | last :: earlier =>
      if last.symbol.range = call.symbol.range then
        { last with sites := last.sites ++ call.sites } :: earlier
      else
        call :: last :: earlier
  | [] => [call]

def mergeNeighbours (calls : List (Call ResolvedSymbol)) : List (Call ResolvedSymbol) :=
  (calls.foldl merge []).reverse

def withoutAnchor (anchor : ResolvedSymbol) (calls : List (Call ResolvedSymbol)) :
    List (Call ResolvedSymbol) :=
  calls.filter fun call => call.symbol.range ≠ anchor.range

def incomingCalls (host : Host) (anchor : ResolvedSymbol) :
    Operation QueryLog (List (Call ResolvedSymbol)) := do
  let start := anchor.selectionRange.start
  let references ← ask (.references anchor.uri start) (host.references anchor.uri start)
  if references.isEmpty then
    emit fun _ => [event "no references found" [("anchor", .text anchor.name)]]
    return []
  else
    let resolved ← resolve host (References.inReadingOrder references)
    let calls := withoutAnchor anchor (mergeNeighbours resolved)
    emit fun _ => [event "incoming calls"
      [("anchor", .text anchor.name), ("resolved", .number resolved.length),
        ("calls", .number calls.length)]]
    return calls

/-- References do not tell whom a symbol calls. -/
def outgoingCalls (_anchor : ResolvedSymbol) : List (Call ResolvedSymbol) :=
  []

def engine (host : Host) : Engine QueryLog ResolvedSymbol where
  source := .references
  prepare document position := prepare host document.uri position
  incomingCalls := incomingCalls host
  outgoingCalls anchor := return outgoingCalls anchor
  node := ResolvedSymbol.node

end Delegation

end CallHierarchy
