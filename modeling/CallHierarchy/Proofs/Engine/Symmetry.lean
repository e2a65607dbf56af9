import CallHierarchy.Engine.Direct
import CallHierarchy.Proofs.Declaration.Blocks
import CallHierarchy.Proofs.Index.Reachable
import Mathlib.Data.Char
import Mathlib.Data.List.Lex
import Mathlib.Data.List.Pairwise

/-!
Searching bodies in both directions. A caller's entry among the incoming calls of a declaration is,
with the same sites, the entry of the declaration's name among the outgoing calls of the caller. No
caller and no callee is listed twice, and a name alone decides who calls it.
-/

namespace CallHierarchy

namespace Declaration

theorem same_comm
    (left right : Declaration) :
    left.same right = right.same left := by
  simp only [same, eq_comm]

theorem same_self (declaration : Declaration) : declaration.same declaration = true := by
  simp [same]

theorem uri_eq_of_same
    {left right : Declaration} (same : left.same right = true) :
    left.uri = right.uri := by
  simp only [Declaration.same, Bool.and_eq_true, decide_eq_true_eq] at same
  exact same.1.1.2

theorem fullRange_eq_of_same
    {left right : Declaration} (same : left.same right = true) :
    left.fullRange = right.fullRange := by
  simp only [Declaration.same, Bool.and_eq_true, decide_eq_true_eq] at same
  exact same.1.2

end Declaration

theorem SyntaxTree.pairwise_not_same_parse
    (keyword : Keyword) (id : TreeId) (document : Snapshot) :
    (SyntaxTree.parse keyword id document).declarations.Pairwise fun left right =>
      left.same right = false := by
  refine (pairwise_fullRange_parse keyword id document).imp ?_
  intro left right differentRanges
  rw [Bool.eq_false_iff]
  intro same
  exact differentRanges (Declaration.fullRange_eq_of_same same)

namespace Workspace

section WellFormedWorkspace

variable {workspace : Workspace}

theorem WellFormed.uri_of_declared
    (wellFormed : workspace.WellFormed)
    {tree : SyntaxTree} (live : tree ∈ workspace.liveTrees)
    {declaration : Declaration} (declared : declaration ∈ tree.declarations) :
    declaration.uri = tree.uri := by
  rw [wellFormed.parsed tree live] at declared
  exact SyntaxTree.uri_of_mem_parse declared

/-- No two declarations of an index are the same. -/
theorem WellFormed.pairwise_not_same
    (wellFormed : workspace.WellFormed) :
    workspace.index.allFunctions.Pairwise fun left right => left.same right = false := by
  -- Declarations of one tree differ in their ranges, those of two trees in their documents.
  refine List.pairwise_flatMap.2 ⟨?_, ?_⟩
  · intro tree member
    rw [wellFormed.parsed tree (mem_liveTrees_of_indexed member)]
    exact SyntaxTree.pairwise_not_same_parse _ _ _
  · refine (List.pairwise_map.1 wellFormed.distinctUris).imp_of_mem ?_
    intro leftTree rightTree leftMember rightMember differentUris
      left leftDeclared right rightDeclared
    rw [Bool.eq_false_iff]
    intro same
    apply differentUris
    rw [← wellFormed.uri_of_declared (mem_liveTrees_of_indexed leftMember) leftDeclared,
      ← wellFormed.uri_of_declared (mem_liveTrees_of_indexed rightMember) rightDeclared]
    exact Declaration.uri_eq_of_same same

/-- Among the declarations of an index, the same declaration means equal in every field. -/
theorem WellFormed.same_iff_eq
    (wellFormed : workspace.WellFormed) {left right : Declaration}
    (leftMember : left ∈ workspace.index.allFunctions)
    (rightMember : right ∈ workspace.index.allFunctions) :
    left.same right = true ↔ left = right := by
  constructor
  · intro same
    by_contra different
    have symmetric : Std.Symm fun left right : Declaration => left.same right = false := by
      constructor
      intro first second notSame
      rwa [Declaration.same_comm]
    have notSame := wellFormed.pairwise_not_same.forall leftMember rightMember different
    rw [same] at notSame
    cases notSame
  · rintro rfl
    exact left.same_self

end WellFormedWorkspace

theorem name_of_findByName?
    {index : SyntaxIndex} {name : Text} {declaration : Declaration}
    (found : index.findByName? name = some declaration) :
    declaration.name = name := by
  obtain ⟨tree, _, foundInTree⟩ := List.exists_of_findSome?_eq_some found
  simpa using List.find?_some foundInTree

theorem mem_of_findByName?
    {index : SyntaxIndex} {name : Text} {declaration : Declaration}
    (found : index.findByName? name = some declaration) :
    declaration ∈ index.allFunctions := by
  obtain ⟨tree, member, foundInTree⟩ := List.exists_of_findSome?_eq_some found
  exact List.mem_flatMap.2 ⟨tree, member, List.mem_of_find?_eq_some foundInTree⟩

theorem mem_of_find
    {index : SyntaxIndex} {document : Snapshot} {position : Position} {declaration : Declaration}
    (found : (index.find document position).1 = some declaration) :
    declaration ∈ (index.perform (.find document position)).allFunctions := by
  rw [SyntaxIndex.perform]
  cases wordEq : SyntaxIndex.wordAt? document position with
  | none => simp [SyntaxIndex.find, wordEq] at found
  | some word =>
      simp only [SyntaxIndex.find, wordEq] at found ⊢
      exact mem_of_findByName? found

theorem exists_findByName?
    {index : SyntaxIndex} {declaration : Declaration}
    (member : declaration ∈ index.allFunctions) :
    ∃ target, index.findByName? declaration.name = some target := by
  obtain ⟨tree, treeMember, declared⟩ := List.mem_flatMap.1 member
  have foundInTree :
      (tree.declarations.find? fun other => other.name = declaration.name).isSome = true :=
    List.find?_isSome.2 ⟨declaration, declared, by simp⟩
  exact Option.isSome_iff_exists.1
    (List.findSome?_isSome_iff.2 ⟨tree, treeMember, foundInTree⟩)

end Workspace

theorem mem_insertName
    {candidate name : Text} {names : List Text} :
    candidate ∈ insertName name names ↔ candidate = name ∨ candidate ∈ names := by
  induction names with
  | nil => simp [insertName]
  | cons first rest inductionHypothesis =>
      by_cases equal : name = first
      · rw [insertName, if_pos equal, equal, List.mem_cons]
        tauto
      · by_cases smaller : first < name
        · rw [insertName, if_neg equal, if_pos smaller, List.mem_cons]
        · rw [insertName, if_neg equal, if_neg smaller, List.mem_cons, List.mem_cons,
            inductionHypothesis]
          tauto

theorem mem_descendingNames
    {candidate : Text} {names : List Text} :
    candidate ∈ descendingNames names ↔ candidate ∈ names := by
  induction names with
  | nil => simp [descendingNames]
  | cons first rest inductionHypothesis =>
      have step : descendingNames (first :: rest) = insertName first (descendingNames rest) := rfl
      rw [step, mem_insertName, inductionHypothesis, List.mem_cons]

theorem pairwise_insertName
    {name : Text} {names : List Text}
    (descending : names.Pairwise fun left right => right < left) :
    (insertName name names).Pairwise fun left right => right < left := by
  induction names with
  | nil => exact List.pairwise_singleton _ name
  | cons first rest inductionHypothesis =>
      obtain ⟨belowFirst, restDescending⟩ := List.pairwise_cons.1 descending
      by_cases equal : name = first
      · rw [insertName, if_pos equal]
        exact descending
      · by_cases smaller : first < name
        · rw [insertName, if_neg equal, if_pos smaller]
          refine List.pairwise_cons.2 ⟨?_, descending⟩
          intro candidate member
          rcases List.mem_cons.1 member with rfl | inRest
          · exact smaller
          · exact lt_trans (belowFirst candidate inRest) smaller
        · rw [insertName, if_neg equal, if_neg smaller]
          refine List.pairwise_cons.2 ⟨?_, inductionHypothesis restDescending⟩
          intro candidate member
          rcases mem_insertName.1 member with rfl | inRest
          · exact lt_of_le_of_ne (not_lt.1 smaller) equal
          · exact belowFirst candidate inRest

theorem pairwise_descendingNames
    (names : List Text) :
    (descendingNames names).Pairwise fun left right => right < left := by
  induction names with
  | nil => exact List.Pairwise.nil
  | cons first rest inductionHypothesis => exact pairwise_insertName inductionHypothesis

namespace Workspace

theorem call?_eq_some
    {Item : Type} {symbol : Item} {sites : List Location} {call : Call Item} :
    call? symbol sites = some call ↔ sites ≠ [] ∧ call = ⟨symbol, sites⟩ := by
  by_cases empty : sites = []
  · simp [call?, empty]
  · have found : call? symbol sites = some ⟨symbol, sites⟩ := by
      simp [call?, empty]
    rw [found, Option.some_inj]
    exact ⟨fun equal => ⟨empty, equal.symm⟩, fun known => known.2.symm⟩

/-- A declaration is called by the declarations of the index in whose bodies its name occurs. -/
theorem mem_incomingCalls
    {workspace : Workspace} {anchor : Declaration} {call : Call Declaration} :
    call ∈ workspace.incomingCalls anchor ↔
      call.symbol ∈ workspace.index.allFunctions ∧ call.sites ≠ [] ∧
        workspace.callSites call.symbol anchor.name = call.sites := by
  constructor
  · intro member
    obtain ⟨caller, callerMember, found⟩ := List.mem_filterMap.1 member
    obtain ⟨someSite, rfl⟩ := call?_eq_some.1 found
    exact ⟨callerMember, someSite, rfl⟩
  · rintro ⟨callerMember, someSite, sitesEq⟩
    refine List.mem_filterMap.2 ⟨call.symbol, callerMember, call?_eq_some.2 ?_⟩
    rw [sitesEq]
    exact ⟨someSite, rfl⟩

/-- A declaration calls the first declaration of every name that occurs in its body. -/
theorem mem_outgoingCalls
    {workspace : Workspace} {anchor : Declaration} {call : Call Declaration} :
    call ∈ workspace.outgoingCalls anchor ↔
      workspace.index.findByName? call.symbol.name = some call.symbol ∧ call.sites ≠ [] ∧
        workspace.callSites anchor call.symbol.name = call.sites := by
  constructor
  · intro member
    obtain ⟨name, _, found⟩ := List.mem_filterMap.1 member
    obtain ⟨callee, calleeFound, callFound⟩ := Option.bind_eq_some_iff.1 found
    obtain ⟨someSite, rfl⟩ := call?_eq_some.1 callFound
    have nameEq : callee.name = name := name_of_findByName? calleeFound
    subst nameEq
    exact ⟨calleeFound, someSite, rfl⟩
  · rintro ⟨calleeFound, someSite, sitesEq⟩
    refine List.mem_filterMap.2 ⟨call.symbol.name, ?_, ?_⟩
    · exact mem_descendingNames.2 (List.mem_map_of_mem (mem_of_findByName? calleeFound))
    · rw [calleeFound, sitesEq, Option.bind_some]
      exact call?_eq_some.2 ⟨someSite, rfl⟩

theorem WellFormed.pairwise_incomingCalls
    {workspace : Workspace} (wellFormed : workspace.WellFormed) (anchor : Declaration) :
    (workspace.incomingCalls anchor).Pairwise fun left right =>
      left.symbol.same right.symbol = false := by
  refine List.pairwise_filterMap.2 (wellFormed.pairwise_not_same.imp ?_)
  intro left right notSame leftCall leftFound rightCall rightFound
  obtain ⟨_, rfl⟩ := call?_eq_some.1 leftFound
  obtain ⟨_, rfl⟩ := call?_eq_some.1 rightFound
  exact notSame

/-- Called names come in descending order, so each of them once. -/
theorem descending_outgoingCalls
    (workspace : Workspace) (anchor : Declaration) :
    (workspace.outgoingCalls anchor).Pairwise fun left right =>
      right.symbol.name < left.symbol.name := by
  refine List.pairwise_filterMap.2 ((pairwise_descendingNames _).imp ?_)
  intro leftName rightName descending leftCall leftFound rightCall rightFound
  obtain ⟨leftCallee, leftNamed, leftEq⟩ := Option.bind_eq_some_iff.1 leftFound
  obtain ⟨rightCallee, rightNamed, rightEq⟩ := Option.bind_eq_some_iff.1 rightFound
  obtain ⟨_, rfl⟩ := call?_eq_some.1 leftEq
  obtain ⟨_, rfl⟩ := call?_eq_some.1 rightEq
  -- A callee has the name that was searched for.
  rwa [name_of_findByName? leftNamed, name_of_findByName? rightNamed]

theorem pairwise_outgoingCalls
    (workspace : Workspace) (anchor : Declaration) :
    (workspace.outgoingCalls anchor).Pairwise fun left right =>
      left.symbol.same right.symbol = false := by
  refine (workspace.descending_outgoingCalls anchor).imp ?_
  intro left right descending
  rw [Bool.eq_false_iff]
  intro same
  have namesEq : left.symbol.name = right.symbol.name := by
    simp only [Declaration.same, Bool.and_eq_true, decide_eq_true_eq] at same
    exact same.1.1.1
  exact absurd namesEq (ne_of_gt descending)

end Workspace

/-- In every reachable workspace, a caller stands among the incoming calls of a declaration exactly
when the declaration of that name stands, with the same sites, among the outgoing calls of the
caller. Neither list names a declaration twice, and declarations of one name have the same callers.
Declarations of an index are the same only when they are equal. -/
theorem incomingCalls_mirror_outgoingCalls
    {keyword : Keyword} {workspace : Workspace}
    (reachable : Workspace.Reachable keyword workspace) :
    (∀ left ∈ workspace.index.allFunctions, ∀ right ∈ workspace.index.allFunctions,
      left.same right = true ↔ left = right) ∧
      (∀ caller ∈ workspace.index.allFunctions, ∀ callee ∈ workspace.index.allFunctions,
        ∀ sites : List Location,
          ⟨caller, sites⟩ ∈ workspace.incomingCalls callee ↔
            ∃ target, workspace.index.findByName? callee.name = some target ∧
              ⟨target, sites⟩ ∈ workspace.outgoingCalls caller) ∧
      (∀ callee ∈ workspace.index.allFunctions,
        (workspace.incomingCalls callee).Pairwise fun left right =>
          left.symbol.same right.symbol = false) ∧
      (∀ caller ∈ workspace.index.allFunctions,
        (workspace.outgoingCalls caller).Pairwise fun left right =>
          left.symbol.same right.symbol = false) ∧
      ∀ left ∈ workspace.index.allFunctions, ∀ right ∈ workspace.index.allFunctions,
        left.name = right.name →
          workspace.incomingCalls left = workspace.incomingCalls right := by
  have wellFormed := reachable.wellFormed
  refine ⟨?_, ?_, ?_, ?_, ?_⟩
  · intro left leftMember right rightMember
    exact wellFormed.same_iff_eq leftMember rightMember
  · intro caller callerMember callee calleeMember sites
    rw [Workspace.mem_incomingCalls]
    constructor
    · rintro ⟨_, someSite, sitesEq⟩
      obtain ⟨target, found⟩ := Workspace.exists_findByName? calleeMember
      have targetName := Workspace.name_of_findByName? found
      refine ⟨target, found, Workspace.mem_outgoingCalls.2 ?_⟩
      rw [targetName]
      exact ⟨found, someSite, sitesEq⟩
    · rintro ⟨target, found, member⟩
      obtain ⟨_, someSite, sitesEq⟩ := Workspace.mem_outgoingCalls.1 member
      rw [Workspace.name_of_findByName? found] at sitesEq
      exact ⟨callerMember, someSite, sitesEq⟩
  · intro callee _
    exact wellFormed.pairwise_incomingCalls callee
  · intro caller _
    exact workspace.pairwise_outgoingCalls caller
  · intro left _ right _ sameName
    rw [Workspace.incomingCalls, Workspace.incomingCalls, sameName]

/-- Two documents that both declare `g`: the first also declares a name that contains it, the second
calls itself. -/
def overlappingNames : List IndexCall :=
  let first : Uri := ⟨['a'], Eq.refl true⟩
  let second : Uri := ⟨['b'], Eq.refl true⟩
  [.ensureTree ⟨first, [], 1, "f g \x7b\n gg\n\x7d\nf gg \x7b\n g\n\x7d".toList⟩,
    .ensureTree ⟨second, [], 1, "f g \x7b\n gggg g\n\x7d".toList⟩]

theorem overlappingNames_mirror_outgoingCalls :
    let keyword : Keyword := ⟨['f'], by decide⟩
    let workspace : Workspace := ⟨(SyntaxIndex.empty keyword).run overlappingNames, []⟩
    Workspace.Reachable keyword workspace ∧
      workspace.index.allFunctions.map (fun callee =>
        ((workspace.incomingCalls callee).length, (workspace.outgoingCalls callee).length)) =
        [(3, 2), (2, 1), (3, 2)] ∧
      ∀ caller ∈ workspace.index.allFunctions, ∀ callee ∈ workspace.index.allFunctions,
        ∀ sites : List Location,
          ⟨caller, sites⟩ ∈ workspace.incomingCalls callee ↔
            ∃ target, workspace.index.findByName? callee.name = some target ∧
              ⟨target, sites⟩ ∈ workspace.outgoingCalls caller := by
  intro keyword workspace
  have reachable : Workspace.Reachable keyword workspace :=
    Workspace.reachable_run keyword overlappingNames
  exact ⟨reachable, by decide +kernel, (incomingCalls_mirror_outgoingCalls reachable).2.1⟩

end CallHierarchy
