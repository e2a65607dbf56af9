import CallHierarchy.Engine.Direct
import CallHierarchy.Graph.Exploration
import CallHierarchy.Service.Item
import CallHierarchy.Settings.Basic

/-!
The call hierarchy of the indexed language. Documents of that language are parsed when they are
opened or changed; documents of any other are left alone. Items are looked up in the index again
whenever a client comes back with them.
-/

namespace CallHierarchy

/-- A service for the documents of one language. Its state is a workspace. -/
structure IndexedService where
  settings : Settings
  keyword : Keyword

namespace IndexedService

open Operation

def ofSettings (settings : Settings) : Except SettingsError IndexedService := do
  let keyword ← settings.validate
  return ⟨settings, keyword⟩

def initial (service : IndexedService) : Workspace :=
  Workspace.empty service.keyword

def readyEvent (service : IndexedService) : Event :=
  { level := .debug
    target := .service
    message := "call hierarchy service ready"
    fields :=
      [("language_id", .text service.settings.languageId),
        ("keyword", .text service.settings.functionKeyword)] }

def accepts (service : IndexedService) (document : Snapshot) : Bool :=
  document.languageId = service.settings.languageId

def refresh (service : IndexedService) (document : Snapshot) : Operation Workspace Unit := do
  if service.accepts document then
    let _ ← DirectSearch.ensureTree document
  else
    emit fun _ =>
      [{ level := .trace
         target := .service
         message := "ignoring document"
         fields :=
           [("uri", .text document.uri.text), ("language_id", .text document.languageId)] }]

def documentSymbols (service : IndexedService) (document : Snapshot) :
    Operation Workspace (Option (List Symbol)) := do
  if service.accepts document then
    let tree ← DirectSearch.ensureTree document
    return some tree.outline
  else
    return none

def prepare (service : IndexedService) (document : Snapshot) (position : Position) :
    Operation Workspace (Option Item) := do
  if service.accepts document then
    let declaration ← DirectSearch.prepare document position
    return declaration.map Declaration.item
  else
    return none

/-- The declaration that an item describes exactly: same document, name and name range. -/
def exactMatch? (index : SyntaxIndex) (item : Item) : Option Declaration := do
  let tree ← index.tree? item.uri
  tree.declarations.find? fun declaration =>
    declaration.name = item.name && declaration.nameRange = item.selectionRange

/-- The declaration that an item stands for: the one it describes exactly, or else the first one
with its name. -/
def resolve? (index : SyntaxIndex) (item : Item) : Option Declaration :=
  (exactMatch? index item).or (index.findByName? item.name)

def incomingCalls (item : Item) : Operation Workspace (Option (List ItemCall)) := do
  match resolve? (← readState).index item with
  | none => return none
  | some anchor =>
      let calls ← DirectSearch.incomingCalls anchor
      return some (calls.map fun call => call.toItemCall Declaration.item)

def outgoingCalls (item : Item) : Operation Workspace (Option (List ItemCall)) := do
  match resolve? (← readState).index item with
  | none => return none
  | some anchor =>
      let calls ← DirectSearch.outgoingCalls anchor
      return some (calls.map fun call => call.toItemCall Declaration.item)

/-- The callers and callees of the declaration under a position. The language of the document does
not matter here. -/
def callGraph (document : Snapshot) (position : Position) (depth : Nat) :
    Operation Workspace CallGraph :=
  Exploration.callGraph DirectSearch.engine document position depth

end IndexedService

end CallHierarchy
