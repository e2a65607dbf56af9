import CallHierarchy.Engine.Basic
import CallHierarchy.Index.Workspace

/-!
Calls found by searching bodies. A function calls every declared name that occurs in its body, even
inside a longer word; a name stands for its first declaration. Names are searched from the last to
the first in text order.
-/

namespace CallHierarchy

def SyntaxTree.callSites
    (tree : SyntaxTree) (declaration : Declaration) (name : Text) : List Location :=
  let base := tree.document.offsetAt declaration.bodyRange.start
  (Text.occurrences name (tree.bodyText declaration)).map fun offset =>
    { uri := tree.uri
      range :=
        { start := tree.document.positionAt (base + offset)
          finish := tree.document.positionAt (base + offset + name.byteLength) } }

/-- A list of distinct names in descending order with one more name. -/
def insertName (name : Text) : List Text → List Text
  | [] => [name]
  | first :: rest =>
      if name = first then first :: rest
      else if first < name then name :: first :: rest
      else first :: insertName name rest

def descendingNames (names : List Text) : List Text :=
  names.foldr insertName []

namespace Workspace

/-- The places in a declaration's body where a name occurs; a declaration without its tree has
none. -/
def callSites (workspace : Workspace) (declaration : Declaration) (name : Text) : List Location :=
  match workspace.treeOf? declaration with
  | none => []
  | some tree => tree.callSites declaration name

/-- The call between a declaration and the symbol found at some sites, if there are any. -/
def call? {Item : Type} (symbol : Item) (sites : List Location) : Option (Call Item) :=
  if sites.isEmpty then none else some ⟨symbol, sites⟩

def outgoingCalls (workspace : Workspace) (anchor : Declaration) : List (Call Declaration) :=
  let names := descendingNames (workspace.index.allFunctions.map Declaration.name)
  names.filterMap fun name =>
    (workspace.index.findByName? name).bind fun callee =>
      call? callee (workspace.callSites anchor name)

/-- The functions that call a declaration, in the order of the index. -/
def incomingCalls (workspace : Workspace) (anchor : Declaration) : List (Call Declaration) :=
  workspace.index.allFunctions.filterMap fun caller =>
    call? caller (workspace.callSites caller anchor.name)

/-- What searching a declaration's body reports: that there is no body any more. -/
def searchEvents (workspace : Workspace) (declaration : Declaration) : List Event :=
  if (workspace.treeOf? declaration).isSome then
    []
  else
    [{ level := .trace
       target := .directSearch
       message := "declaration outlived its tree"
       fields := [("name", .text declaration.name)] }]

def searched (message : String) (anchor : Declaration) (calls : Nat) : Event :=
  { level := .debug
    target := .directSearch
    message := message
    fields := [("anchor", .text anchor.name), ("calls", .number calls)] }

def outgoingEvents (workspace : Workspace) (anchor : Declaration) : List Event :=
  workspace.searchEvents anchor ++
    [searched "outgoing calls" anchor (workspace.outgoingCalls anchor).length]

def incomingEvents (workspace : Workspace) (anchor : Declaration) : List Event :=
  workspace.index.allFunctions.flatMap workspace.searchEvents ++
    [searched "incoming calls" anchor (workspace.incomingCalls anchor).length]

end Workspace

def Declaration.node (declaration : Declaration) : CallNode :=
  { name := declaration.name
    kind := .function
    uri := declaration.uri
    range := declaration.fullRange
    selectionRange := declaration.nameRange
    container := none }

namespace DirectSearch

open Operation

def ensureTree (document : Snapshot) : Operation Workspace SyntaxTree := do
  let workspace ← readState
  emit fun _ => workspace.index.ensureEvents document
  let (tree, index) := workspace.index.ensureTree document
  writeState { workspace with index := index }
  return tree

def prepare (document : Snapshot) (position : Position) :
    Operation Workspace (Option Declaration) := do
  let workspace ← readState
  emit fun _ => workspace.index.findEvents document position
  let (declaration, index) := workspace.index.find document position
  writeState { workspace with index := index }
  return declaration

def incomingCalls (anchor : Declaration) : Operation Workspace (List (Call Declaration)) := do
  let workspace ← readState
  emit fun _ => workspace.incomingEvents anchor
  return workspace.incomingCalls anchor

def outgoingCalls (anchor : Declaration) : Operation Workspace (List (Call Declaration)) := do
  let workspace ← readState
  emit fun _ => workspace.outgoingEvents anchor
  return workspace.outgoingCalls anchor

def engine : Engine Workspace Declaration where
  source := .directSearch
  prepare := prepare
  incomingCalls := incomingCalls
  outgoingCalls := outgoingCalls
  node := Declaration.node

end DirectSearch

end CallHierarchy
