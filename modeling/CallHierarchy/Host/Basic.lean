import CallHierarchy.Error
import CallHierarchy.Outline.Symbol

/-!
Hosts: whoever can tell where a symbol is defined, where it is referred to and what the outline of
a document is. An empty answer means that nothing is known.
-/

namespace CallHierarchy

structure Host where
  definitions : Uri → Position → Except HostError (List Location)
  references : Uri → Position → Except HostError (List Location)
  documentSymbols : Uri → Except HostError (List Symbol)

inductive Query where
  | definitions (uri : Uri) (position : Position)
  | references (uri : Uri) (position : Position)
  | documentSymbols (uri : Uri)
  deriving DecidableEq, Repr

namespace Query

def operation : Query → HostOperation
  | definitions _ _ => .definition
  | references _ _ => .references
  | documentSymbols _ => .documentSymbols

def uri : Query → Uri
  | definitions uri _ | references uri _ | documentSymbols uri => uri

/-- The position that the question is about; an outline has none. -/
def position? : Query → Option Position
  | definitions _ position | references _ position => some position
  | documentSymbols _ => none

def render (query : Query) : String :=
  let place := match query.position? with
    | some position => s!" {position.line}:{position.character}"
    | none => ""
  s!"{query.operation.label} {String.ofList query.uri.text}{place}"

end Query

end CallHierarchy
