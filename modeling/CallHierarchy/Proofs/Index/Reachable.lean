import CallHierarchy.Index.Workspace
import Mathlib.Data.List.Induction
import Mathlib.Data.List.Nodup
import Mathlib.Logic.Relation

/-!
Runs of an index, and the workspaces that they reach. Whatever is asked of an index, and whatever
trees are held beside it, every document has one tree, every living tree is the parse of its own
document, and a tree's number belongs to that tree alone.
-/

namespace CallHierarchy

/-- The calls that may change an index. -/
inductive IndexCall where
  | ensureTree (document : Snapshot)
  | find (document : Snapshot) (position : Position)

/-- The document that a call brings up to date. Looking for a declaration does so only where there
is a word. -/
def IndexCall.ensured? : IndexCall → Option Snapshot
  | ensureTree document => some document
  | find document position =>
      (SyntaxIndex.wordAt? document position).map fun _ => document

namespace SyntaxIndex

def perform (index : SyntaxIndex) : IndexCall → SyntaxIndex
  | .ensureTree document => (index.ensureTree document).2
  | .find document position => (index.find document position).2

def run (index : SyntaxIndex) (calls : List IndexCall) : SyntaxIndex :=
  calls.foldl perform index

def ensureAll (index : SyntaxIndex) (documents : List Snapshot) : SyntaxIndex :=
  documents.foldl (fun current document => (current.ensureTree document).2) index

theorem perform_of_ensured?_none
    (index : SyntaxIndex) {call : IndexCall}
    (nothing : call.ensured? = none) :
    index.perform call = index := by
  cases call with
  | ensureTree document => cases nothing
  | find document position =>
      have noWord : wordAt? document position = none := by
        simpa [IndexCall.ensured?] using nothing
      simp [perform, find, noWord]

theorem perform_of_ensured?_some
    (index : SyntaxIndex) {call : IndexCall} {document : Snapshot}
    (ensured : call.ensured? = some document) :
    index.perform call = (index.ensureTree document).2 := by
  cases call with
  | ensureTree target =>
      cases ensured
      rfl
  | find target position =>
      obtain ⟨word, wordEq, targetEq⟩ := Option.map_eq_some_iff.1 ensured
      subst targetEq
      simp [perform, find, wordEq]

/-- A run brings up to date the documents that its calls ensure, and does nothing else. -/
theorem run_eq_ensureAll
    (index : SyntaxIndex) (calls : List IndexCall) :
    index.run calls = index.ensureAll (calls.filterMap IndexCall.ensured?) := by
  induction calls generalizing index with
  | nil => rfl
  | cons call rest inductionHypothesis =>
      have step : index.run (call :: rest) = (index.perform call).run rest := rfl
      rw [step, inductionHypothesis]
      cases ensured : call.ensured? with
      | none =>
          rw [perform_of_ensured?_none index ensured, List.filterMap_cons_none ensured]
      | some document =>
          rw [perform_of_ensured?_some index ensured, List.filterMap_cons_some ensured]
          rfl

/-- Bringing a document up to date finds a tree of the same version, or parses the document. -/
theorem ensureTree_cases
    (index : SyntaxIndex) (document : Snapshot) :
    (∃ tree,
      index.tree? document.uri = some tree ∧ tree.version = document.version ∧
        index.ensureTree document = (tree, index)) ∨
      ((∀ tree, index.tree? document.uri = some tree → tree.version ≠ document.version) ∧
        index.ensureTree document =
          (SyntaxTree.parse index.keyword ⟨index.nextTree⟩ document,
            { index with
              trees := put (SyntaxTree.parse index.keyword ⟨index.nextTree⟩ document) index.trees
              nextTree := index.nextTree + 1 })) := by
  cases currentEq : index.current? document with
  | some tree =>
      obtain ⟨found, current⟩ := Option.filter_eq_some_iff.1 currentEq
      refine Or.inl ⟨tree, found, of_decide_eq_true current, ?_⟩
      rw [ensureTree, currentEq]
  | none =>
      refine Or.inr ⟨?_, ?_⟩
      · intro tree found sameVersion
        have kept : index.current? document = some tree :=
          Option.filter_eq_some_iff.2 ⟨found, decide_eq_true sameVersion⟩
        rw [currentEq] at kept
        cases kept
      · rw [ensureTree, currentEq]

theorem keyword_ensureTree
    (index : SyntaxIndex) (document : Snapshot) :
    (index.ensureTree document).2.keyword = index.keyword := by
  rcases index.ensureTree_cases document with ⟨tree, _, _, ensured⟩ | ⟨_, ensured⟩
  · rw [ensured]
  · rw [ensured]

theorem keyword_perform
    (index : SyntaxIndex) (call : IndexCall) :
    (index.perform call).keyword = index.keyword := by
  cases ensured : call.ensured? with
  | none => rw [perform_of_ensured?_none index ensured]
  | some document =>
      rw [perform_of_ensured?_some index ensured, keyword_ensureTree]

theorem tree?_eq_some
    {index : SyntaxIndex} {uri : Uri} {tree : SyntaxTree}
    (found : index.tree? uri = some tree) :
    tree ∈ index.trees ∧ tree.uri = uri := by
  refine ⟨List.mem_of_find?_eq_some found, ?_⟩
  simpa using List.find?_some found

theorem mem_put_self
    (tree : SyntaxTree) (trees : List SyntaxTree) :
    tree ∈ put tree trees := by
  induction trees with
  | nil => simp [put]
  | cons first rest inductionHypothesis =>
      by_cases sameUri : first.uri = tree.uri
      · simp [put, sameUri]
      · simp [put, sameUri, inductionHypothesis]

theorem mem_of_mem_put
    {tree member : SyntaxTree} {trees : List SyntaxTree}
    (inPut : member ∈ put tree trees) :
    member = tree ∨ member ∈ trees := by
  induction trees with
  | nil =>
      exact Or.inl (by simpa [put] using inPut)
  | cons first rest inductionHypothesis =>
      by_cases sameUri : first.uri = tree.uri
      · rw [put, if_pos sameUri] at inPut
        rcases List.mem_cons.1 inPut with same | inRest
        · exact Or.inl same
        · exact Or.inr (List.mem_cons_of_mem first inRest)
      · rw [put, if_neg sameUri] at inPut
        rcases List.mem_cons.1 inPut with same | inRest
        · exact Or.inr (List.mem_cons.2 (Or.inl same))
        · exact (inductionHypothesis inRest).imp_right (List.mem_cons_of_mem first)

theorem map_uri_put
    (tree : SyntaxTree) (trees : List SyntaxTree) :
    (put tree trees).map SyntaxTree.uri =
      if tree.uri ∈ trees.map SyntaxTree.uri then trees.map SyntaxTree.uri
      else trees.map SyntaxTree.uri ++ [tree.uri] := by
  induction trees with
  | nil => simp [put]
  | cons first rest inductionHypothesis =>
      by_cases sameUri : first.uri = tree.uri
      · simp [put, sameUri]
      · rw [put, if_neg sameUri, List.map_cons, inductionHypothesis]
        by_cases present : tree.uri ∈ rest.map SyntaxTree.uri
        · have stillPresent : tree.uri ∈ (first :: rest).map SyntaxTree.uri :=
            List.mem_cons_of_mem first.uri present
          rw [if_pos present, if_pos stillPresent]
          rfl
        · have absent : tree.uri ∉ (first :: rest).map SyntaxTree.uri := by
            rw [List.map_cons, List.mem_cons, not_or]
            exact ⟨Ne.symm sameUri, present⟩
          rw [if_neg present, if_neg absent]
          rfl

theorem nodup_map_uri_put
    {tree : SyntaxTree} {trees : List SyntaxTree}
    (distinct : (trees.map SyntaxTree.uri).Nodup) :
    ((put tree trees).map SyntaxTree.uri).Nodup := by
  rw [map_uri_put]
  by_cases present : tree.uri ∈ trees.map SyntaxTree.uri
  · rw [if_pos present]
    exact distinct
  · rw [if_neg present, ← List.concat_eq_append]
    exact distinct.concat present

theorem eq_of_uri_eq
    {trees : List SyntaxTree} {left right : SyntaxTree}
    (distinct : (trees.map SyntaxTree.uri).Nodup)
    (leftMember : left ∈ trees) (rightMember : right ∈ trees)
    (sameUri : left.uri = right.uri) :
    left = right :=
  List.inj_on_of_nodup_map distinct leftMember rightMember sameUri

theorem tree?_of_mem
    {index : SyntaxIndex} (distinctUris : (index.trees.map SyntaxTree.uri).Nodup)
    {tree : SyntaxTree} (member : tree ∈ index.trees) :
    index.tree? tree.uri = some tree := by
  cases found : index.tree? tree.uri with
  | none =>
      have refused := List.find?_eq_none.1 found tree member
      simp at refused
  | some other =>
      obtain ⟨otherMember, sameUri⟩ := tree?_eq_some found
      rw [eq_of_uri_eq distinctUris otherMember member sameUri]

end SyntaxIndex

namespace Workspace

/-- What can happen to a workspace: a call of its index, or a change of what is held beside it. Only
a tree that lives can be held. -/
inductive Step : Workspace → Workspace → Prop
  | perform (workspace : Workspace) (call : IndexCall) :
      Step workspace { workspace with index := workspace.index.perform call }
  | hold (workspace : Workspace) (holder : Text) (tree : SyntaxTree) :
      tree ∈ workspace.liveTrees →
      Step workspace (workspace.hold holder tree)
  | release (workspace : Workspace) (holder : Text) :
      Step workspace (workspace.release holder)

/-- The workspaces that steps lead to from one that has seen no document. -/
def Reachable (keyword : Keyword) (workspace : Workspace) : Prop :=
  Relation.ReflTransGen Step (empty keyword) workspace

/-- Every run of an index is a run of the workspace in which nothing is held. -/
theorem reachable_run
    (keyword : Keyword) (calls : List IndexCall) :
    Reachable keyword ⟨(SyntaxIndex.empty keyword).run calls, []⟩ := by
  induction calls using List.reverseRecOn with
  | nil => exact Relation.ReflTransGen.refl
  | append_singleton earlier call inductionHypothesis =>
      rw [SyntaxIndex.run, List.foldl_concat]
      exact inductionHypothesis.tail (Step.perform ⟨_, []⟩ call)

/-- One tree for each document, and living trees that are parses with numbers of their own. -/
structure WellFormed (workspace : Workspace) : Prop where
  distinctUris : (workspace.index.trees.map SyntaxTree.uri).Nodup
  parsed : ∀ tree ∈ workspace.liveTrees,
    tree = SyntaxTree.parse workspace.index.keyword tree.id tree.document
  numbered : ∀ tree ∈ workspace.liveTrees, tree.id.number < workspace.index.nextTree
  determined : ∀ left ∈ workspace.liveTrees, ∀ right ∈ workspace.liveTrees,
    left.id = right.id → left = right

theorem wellFormed_empty (keyword : Keyword) : (empty keyword).WellFormed := by
  constructor <;> simp [empty, SyntaxIndex.empty, liveTrees]

/-- A workspace of the same index stays well formed while only living trees are held. -/
theorem WellFormed.of_held
    {workspace : Workspace} (wellFormed : workspace.WellFormed)
    {held : List (Text × SyntaxTree)}
    (live : ∀ entry ∈ held, entry.2 ∈ workspace.liveTrees) :
    WellFormed ⟨workspace.index, held⟩ := by
  have stillLive : ∀ tree ∈ liveTrees ⟨workspace.index, held⟩, tree ∈ workspace.liveTrees := by
    intro tree member
    rcases List.mem_append.1 member with indexed | isHeld
    · exact List.mem_append_left _ indexed
    · obtain ⟨entry, entryMember, rfl⟩ := List.mem_map.1 isHeld
      exact live entry entryMember
  exact
    { distinctUris := wellFormed.distinctUris
      parsed := fun tree member => wellFormed.parsed tree (stillLive tree member)
      numbered := fun tree member => wellFormed.numbered tree (stillLive tree member)
      determined := fun left leftMember right rightMember =>
        wellFormed.determined left (stillLive left leftMember) right
          (stillLive right rightMember) }

theorem mem_liveTrees_of_held
    {workspace : Workspace} {entry : Text × SyntaxTree}
    (member : entry ∈ workspace.held) :
    entry.2 ∈ workspace.liveTrees :=
  List.mem_append_right _ (List.mem_map_of_mem member)

theorem mem_liveTrees_of_indexed
    {workspace : Workspace} {tree : SyntaxTree}
    (member : tree ∈ workspace.index.trees) :
    tree ∈ workspace.liveTrees :=
  List.mem_append_left _ member

/-- A new parse in its place keeps the workspace well formed. -/
theorem WellFormed.put
    {workspace : Workspace} (wellFormed : workspace.WellFormed) (document : Snapshot) :
    let tree := SyntaxTree.parse workspace.index.keyword ⟨workspace.index.nextTree⟩ document
    WellFormed
      { workspace with
        index :=
          { workspace.index with
            trees := SyntaxIndex.put tree workspace.index.trees
            nextTree := workspace.index.nextTree + 1 } } := by
  intro tree
  have newOrLive : ∀ member,
      member ∈ SyntaxIndex.put tree workspace.index.trees ++ workspace.held.map Prod.snd →
        member = tree ∨ member ∈ workspace.liveTrees := by
    intro member inNext
    rcases List.mem_append.1 inNext with inPut | isHeld
    · exact (SyntaxIndex.mem_of_mem_put inPut).imp_right mem_liveTrees_of_indexed
    · exact Or.inr (List.mem_append_right _ isHeld)
  -- Numbers are given out once, so no living tree has the number of the new one.
  have fresh : ∀ member ∈ workspace.liveTrees, member.id ≠ tree.id := by
    intro member live sameId
    have smaller := wellFormed.numbered member live
    rw [sameId] at smaller
    exact Nat.lt_irrefl _ smaller
  constructor
  · exact SyntaxIndex.nodup_map_uri_put wellFormed.distinctUris
  · intro member inNext
    rcases newOrLive member inNext with rfl | live
    · rfl
    · exact wellFormed.parsed member live
  · intro member inNext
    rcases newOrLive member inNext with rfl | live
    · exact Nat.lt_succ_self _
    · exact Nat.lt_succ_of_lt (wellFormed.numbered member live)
  · intro left leftMember right rightMember sameId
    rcases newOrLive left leftMember with rfl | leftLive
    · rcases newOrLive right rightMember with rfl | rightLive
      · rfl
      · exact absurd sameId.symm (fresh right rightLive)
    · rcases newOrLive right rightMember with rfl | rightLive
      · exact absurd sameId (fresh left leftLive)
      · exact wellFormed.determined left leftLive right rightLive sameId

theorem WellFormed.perform
    {workspace : Workspace} (wellFormed : workspace.WellFormed) (call : IndexCall) :
    WellFormed { workspace with index := workspace.index.perform call } := by
  cases ensured : call.ensured? with
  | none =>
      rw [SyntaxIndex.perform_of_ensured?_none _ ensured]
      exact wellFormed
  | some document =>
      rw [SyntaxIndex.perform_of_ensured?_some _ ensured]
      rcases workspace.index.ensureTree_cases document with ⟨tree, _, _, found⟩ | ⟨_, parsed⟩
      · rw [found]
        exact wellFormed
      · rw [parsed]
        exact wellFormed.put document

/-- Every step keeps the workspace well formed. -/
theorem WellFormed.step
    {workspace next : Workspace} (wellFormed : workspace.WellFormed)
    (step : Step workspace next) :
    next.WellFormed := by
  cases step with
  | perform call => exact wellFormed.perform call
  | hold holder tree live =>
      refine wellFormed.of_held ?_
      intro entry member
      rcases List.mem_cons.1 member with rfl | kept
      · exact live
      · exact mem_liveTrees_of_held (List.mem_of_mem_filter kept)
  | release holder =>
      refine wellFormed.of_held ?_
      intro entry member
      exact mem_liveTrees_of_held (List.mem_of_mem_filter member)

/-- Every reachable workspace is well formed. -/
theorem Reachable.wellFormed
    {keyword : Keyword} {workspace : Workspace}
    (reachable : Reachable keyword workspace) :
    workspace.WellFormed := by
  induction reachable with
  | refl => exact wellFormed_empty keyword
  | tail _ step inductionHypothesis => exact inductionHypothesis.step step

theorem Reachable.keyword_eq
    {keyword : Keyword} {workspace : Workspace}
    (reachable : Reachable keyword workspace) :
    workspace.index.keyword = keyword := by
  induction reachable with
  | refl => rfl
  | tail _ step inductionHypothesis =>
      cases step with
      | perform call => rw [SyntaxIndex.keyword_perform, inductionHypothesis]
      | hold holder tree live => exact inductionHypothesis
      | release holder => exact inductionHypothesis

section WellFormedWorkspace

variable {workspace : Workspace} {tree : SyntaxTree} {declaration : Declaration}

theorem WellFormed.tree_eq_id
    (wellFormed : workspace.WellFormed)
    (live : tree ∈ workspace.liveTrees)
    (declared : declaration ∈ tree.declarations) :
    declaration.tree = tree.id := by
  rw [wellFormed.parsed tree live] at declared
  obtain ⟨block, _, rfl⟩ := List.mem_map.1 declared
  rfl

/-- A living tree is found by the number in its declarations. -/
theorem WellFormed.treeOf?_eq
    (wellFormed : workspace.WellFormed)
    (live : tree ∈ workspace.liveTrees)
    (declared : declaration ∈ tree.declarations) :
    workspace.treeOf? declaration = some tree := by
  have numberEq := wellFormed.tree_eq_id live declared
  cases found : workspace.treeOf? declaration with
  | none =>
      have absent := List.find?_eq_none.1 found tree live
      simp [numberEq] at absent
  | some other =>
      have otherLive : other ∈ workspace.liveTrees := List.mem_of_find?_eq_some found
      have otherId : other.id = declaration.tree := by
        simpa using List.find?_some found
      rw [wellFormed.determined other otherLive tree live (otherId.trans numberEq)]

theorem WellFormed.bodyText?_eq
    (wellFormed : workspace.WellFormed)
    (live : tree ∈ workspace.liveTrees)
    (declared : declaration ∈ tree.declarations) :
    workspace.bodyText? declaration = some (tree.bodyText declaration) := by
  rw [bodyText?, wellFormed.treeOf?_eq live declared]
  rfl

end WellFormedWorkspace

end Workspace

end CallHierarchy
