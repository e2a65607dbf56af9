import CallHierarchy.Declaration.Tree

/-!
The index: the newest tree of every document seen so far, in the order in which the documents were
first seen. A tree is kept while the version of its document stays the same and replaced in place
when it changes; no entry is ever removed.
-/

namespace CallHierarchy

/-- The newest tree of every document. -/
structure SyntaxIndex where
  keyword : Keyword
  trees : List SyntaxTree
  /-- The number that the next tree gets. -/
  nextTree : Nat
  deriving DecidableEq

namespace SyntaxIndex

def empty (keyword : Keyword) : SyntaxIndex :=
  ⟨keyword, [], 0⟩

/-- The tree of a document, whatever its version. -/
def tree? (index : SyntaxIndex) (uri : Uri) : Option SyntaxTree :=
  index.trees.find? fun tree => tree.uri = uri

/-- The tree of a snapshot's document, if it reflects the snapshot's version. -/
def current? (index : SyntaxIndex) (document : Snapshot) : Option SyntaxTree :=
  (index.tree? document.uri).filter fun tree => tree.isCurrent document

/-- All declarations, tree by tree. -/
def allFunctions (index : SyntaxIndex) : List Declaration :=
  index.trees.flatMap SyntaxTree.declarations

def findByName? (index : SyntaxIndex) (name : Text) : Option Declaration :=
  index.trees.findSome? fun tree =>
    tree.declarations.find? fun declaration => declaration.name = name

def size (index : SyntaxIndex) : Nat :=
  index.trees.length

/-- The trees with one more: it takes the place of the tree of its document, or the last place. -/
def put (tree : SyntaxTree) : List SyntaxTree → List SyntaxTree
  | [] => [tree]
  | first :: rest => if first.uri = tree.uri then tree :: rest else first :: put tree rest

/-- The tree of a snapshot, and the index that holds it. -/
def ensureTree (index : SyntaxIndex) (document : Snapshot) : SyntaxTree × SyntaxIndex :=
  match index.current? document with
  | some tree => (tree, index)
  | none =>
      let tree := SyntaxTree.parse index.keyword ⟨index.nextTree⟩ document
      (tree, { index with trees := put tree index.trees, nextTree := index.nextTree + 1 })

def ensureEvents (index : SyntaxIndex) (document : Snapshot) : List Event :=
  let report (level : Level) (message : String) (more : List (String × FieldValue)) : Event :=
    { level := level
      target := .index
      message := message
      fields :=
        [("uri", .text document.uri.text), ("version", .number document.version.toInt)] ++ more }
  match index.current? document with
  | some _ => [report .trace "syntax tree cache hit" []]
  | none =>
      let tree := (index.ensureTree document).1
      SyntaxTree.parseEvents index.keyword document ++
        [report .debug "parsed document" [("declarations", .number tree.declarations.length)]]

def wordAt? (document : Snapshot) (position : Position) : Option Text :=
  (document.wordRangeAt? position).map document.textIn

/-- The declaration named by the word under a position. The document is brought up to date first,
unless there is no word. -/
def find (index : SyntaxIndex) (document : Snapshot) (position : Position) :
    Option Declaration × SyntaxIndex :=
  match wordAt? document position with
  | none => (none, index)
  | some word =>
      let updated := (index.ensureTree document).2
      (updated.findByName? word, updated)

def findEvents (index : SyntaxIndex) (document : Snapshot) (position : Position) : List Event :=
  match wordAt? document position with
  | none => []
  | some _ => index.ensureEvents document

end SyntaxIndex

end CallHierarchy
