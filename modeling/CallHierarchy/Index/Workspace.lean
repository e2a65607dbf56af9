import CallHierarchy.Index.Basic

/-!
Workspaces: an index together with the trees that somebody outside holds on to. A tree lives as
long as the index or a holder has it, and a declaration whose tree is gone has no text any more.
-/

namespace CallHierarchy

/-- An index and the trees held by name. -/
structure Workspace where
  index : SyntaxIndex
  held : List (Text × SyntaxTree)
  deriving DecidableEq

namespace Workspace

def empty (keyword : Keyword) : Workspace :=
  ⟨SyntaxIndex.empty keyword, []⟩

def liveTrees (workspace : Workspace) : List SyntaxTree :=
  workspace.index.trees ++ workspace.held.map Prod.snd

/-- The tree of a declaration, while it lives. -/
def treeOf? (workspace : Workspace) (declaration : Declaration) : Option SyntaxTree :=
  workspace.liveTrees.find? fun tree => tree.id = declaration.tree

def bodyText? (workspace : Workspace) (declaration : Declaration) : Option Text :=
  (workspace.treeOf? declaration).map fun tree => tree.bodyText declaration

def isHolding (workspace : Workspace) (holder : Text) : Bool :=
  workspace.held.any fun entry => entry.1 = holder

def release (workspace : Workspace) (holder : Text) : Workspace :=
  { workspace with held := workspace.held.filter fun entry => entry.1 ≠ holder }

/-- Gives a holder a tree in place of what it had. -/
def hold (workspace : Workspace) (holder : Text) (tree : SyntaxTree) : Workspace :=
  { workspace with held := (holder, tree) :: (workspace.release holder).held }

end Workspace

end CallHierarchy
