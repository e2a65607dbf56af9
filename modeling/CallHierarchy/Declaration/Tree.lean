import CallHierarchy.Declaration.Block
import CallHierarchy.Document.Snapshot
import CallHierarchy.Event

/-!
Syntax trees and their declarations. A tree is what one snapshot declares. Every tree has a number
of its own, and a declaration knows its tree by that number only: the tree may be gone while the
declaration is still around.
-/

namespace CallHierarchy

/-- The number of a tree. No two trees of a run share one. -/
structure TreeId where
  number : Nat
  deriving DecidableEq, Repr

structure Declaration where
  name : Text
  uri : Uri
  /-- From the start of the header to the end of the closing line. -/
  fullRange : Range
  /-- The name in the header. -/
  nameRange : Range
  /-- The lines between the header and the closing line. -/
  bodyRange : Range
  tree : TreeId
  deriving DecidableEq, Repr

namespace Declaration

/-- Two declarations are the same when name, document, full range and tree agree. -/
def same (left right : Declaration) : Bool :=
  left.name = right.name && left.uri = right.uri && left.fullRange = right.fullRange &&
    left.tree = right.tree

def ofBlock (keyword : Keyword) (uri : Uri) (tree : TreeId) (block : Block) : Declaration :=
  let nameStart := Text.saturate (keyword.text.columnCount + 1)
  let nameFinish := Text.saturate (nameStart + block.name.columnCount)
  { name := block.name
    uri := uri
    fullRange := ⟨⟨block.first, 0⟩, ⟨block.last, Text.columnCount closingLine⟩⟩
    nameRange := Range.onLine block.first nameStart nameFinish
    bodyRange := ⟨⟨Text.saturate (block.first + 1), 0⟩, ⟨block.last, 0⟩⟩
    tree := tree }

end Declaration

/-- What one snapshot declares, in source order. Names may repeat. -/
structure SyntaxTree where
  id : TreeId
  document : Snapshot
  declarations : List Declaration
  deriving DecidableEq

namespace SyntaxTree

def blocks (keyword : Keyword) (document : Snapshot) : Blocks :=
  Blocks.ofLines keyword document.lineTexts

/-- The tree of a snapshot. A header that is still open at the end declares nothing. -/
def parse (keyword : Keyword) (id : TreeId) (document : Snapshot) : SyntaxTree :=
  { id := id
    document := document
    declarations := (blocks keyword document).closed.map
      (Declaration.ofBlock keyword document.uri id) }

/-- What parsing reports: the header that was left open, if there is one. -/
def parseEvents (keyword : Keyword) (document : Snapshot) : List Event :=
  (blocks keyword document).unterminated.toList.map fun opening =>
    { level := .trace
      target := .parser
      message := "dropping unterminated declaration"
      fields := [("uri", .text document.uri.text), ("name", .text opening.name)] }

def uri (tree : SyntaxTree) : Uri :=
  tree.document.uri

def version (tree : SyntaxTree) : Int32 :=
  tree.document.version

/-- Whether the tree still reflects a snapshot of its document. -/
def isCurrent (tree : SyntaxTree) (document : Snapshot) : Bool :=
  tree.version = document.version

/-- The text between the header and the closing line of a declaration. -/
def bodyText (tree : SyntaxTree) (declaration : Declaration) : Text :=
  tree.document.textIn declaration.bodyRange

end SyntaxTree

end CallHierarchy
