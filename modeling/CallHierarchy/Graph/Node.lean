import CallHierarchy.Outline.Symbol
import CallHierarchy.Uri.Path

/-!
Nodes of call graphs. A node is known by the path of its document, the place of its name and the
name itself, written one after the other.
-/

namespace CallHierarchy

/-- The text by which a node is known. -/
structure NodeId where
  text : Text
  deriving DecidableEq, Repr

/-- The id `path:line:column:name`. -/
def NodeId.ofParts (path : Text) (line column : Nat) (name : Text) : NodeId :=
  ⟨path ++ [':'] ++ Nat.toDigits 10 line ++ [':'] ++ Nat.toDigits 10 column ++ [':'] ++ name⟩

inductive NodeKind where
  | function
  | method
  | constructor
  | property
  | unknown
  deriving DecidableEq, Repr

def NodeKind.ofCode (code : KindCode) : NodeKind :=
  if code = 12 then .function
  else if code = 6 then .method
  else if code = 9 then .constructor
  else if code = 7 then .property
  else .unknown

structure CallNode where
  name : Text
  kind : NodeKind
  uri : Uri
  range : Range
  selectionRange : Range
  container : Option Text
  deriving DecidableEq, Repr

namespace CallNode

def path (node : CallNode) : Text :=
  node.uri.path

def id (node : CallNode) : NodeId :=
  NodeId.ofParts node.path node.selectionRange.start.line node.selectionRange.start.character
    node.name

/-- The name with the container in front of it, if there is one. -/
def qualifiedName (node : CallNode) : Text :=
  match node.container with
  | none => node.name
  | some container => container ++ ['.'] ++ node.name

end CallNode

end CallHierarchy
