import CallHierarchy.Proofs.Engine.Symmetry

/-!
What a node id tells. Read from its end, an id whose name has no colon falls apart into its four
parts, whatever the path looks like; so two declarations of an index share an id only when they
stand at the same place of two documents whose references name the same path.
-/

namespace CallHierarchy

theorem takeWhile_reverse_append
    {separator : Char} {behind : Text} (absent : separator ∉ behind) (before : Text) :
    (before ++ [separator] ++ behind).reverse.takeWhile (· ≠ separator) = behind.reverse := by
  have others : ∀ character ∈ behind.reverse, decide (character ≠ separator) = true := by
    intro character member
    rw [decide_eq_true_eq]
    rintro rfl
    exact absent (List.mem_reverse.1 member)
  rw [List.reverse_append, List.takeWhile_append_of_pos others]
  simp

/-- The last separator of a text divides it in one way only. -/
theorem append_separator_inj
    {separator : Char} {before before' behind behind' : Text}
    (absent : separator ∉ behind) (absent' : separator ∉ behind')
    (same : before ++ [separator] ++ behind = before' ++ [separator] ++ behind') :
    before = before' ∧ behind = behind' := by
  have sameBehind : behind = behind' := by
    rw [← List.reverse_inj, ← takeWhile_reverse_append absent before, same,
      takeWhile_reverse_append absent' before']
  rw [sameBehind] at same
  exact ⟨List.append_cancel_right (List.append_cancel_right same), sameBehind⟩

theorem toDigits_ten_inj
    {left right : Nat} (same : Nat.toDigits 10 left = Nat.toDigits 10 right) :
    left = right := by
  calc
    left = Nat.ofDigitChars 10 (Nat.toDigits 10 left) 0 := Nat.ofDigitChars_ten_toDigits.symm
    _ = Nat.ofDigitChars 10 (Nat.toDigits 10 right) 0 := by rw [same]
    _ = right := Nat.ofDigitChars_ten_toDigits

theorem colon_not_mem_toDigits (number : Nat) : ':' ∉ Nat.toDigits 10 number := by
  intro member
  have digit := Nat.isDigit_of_mem_toDigits (by decide) (by decide) member
  simp at digit

/-- An id determines its parts if the name has no colon; the path may have any. -/
theorem NodeId.ofParts_inj
    {path path' : Text} {line line' column column' : Nat} {name name' : Text}
    (noColon : ':' ∉ name) (noColon' : ':' ∉ name')
    (same : NodeId.ofParts path line column name = NodeId.ofParts path' line' column' name') :
    path = path' ∧ line = line' ∧ column = column' ∧ name = name' := by
  obtain ⟨sameFront, sameName⟩ :=
    append_separator_inj noColon noColon' (congrArg NodeId.text same)
  obtain ⟨samePlace, sameColumn⟩ :=
    append_separator_inj (colon_not_mem_toDigits column) (colon_not_mem_toDigits column') sameFront
  obtain ⟨samePath, sameLine⟩ :=
    append_separator_inj (colon_not_mem_toDigits line) (colon_not_mem_toDigits line') samePlace
  exact ⟨samePath, toDigits_ten_inj sameLine, toDigits_ten_inj sameColumn, sameName⟩

theorem IsName.colon_not_mem {name : Text} (named : IsName name) : ':' ∉ name := by
  intro member
  have isCharacter := named.characters ':' member
  simp [isNameCharacter] at isCharacter

/-- Declarations share an id exactly when paths, places of names and names agree. -/
theorem Declaration.id_node_eq_iff
    {left right : Declaration} (leftNamed : IsName left.name) (rightNamed : IsName right.name) :
    left.node.id = right.node.id ↔
      left.uri.path = right.uri.path ∧ left.nameRange.start = right.nameRange.start ∧
        left.name = right.name := by
  have idOf : ∀ declaration : Declaration, declaration.node.id =
      NodeId.ofParts declaration.uri.path declaration.nameRange.start.line
        declaration.nameRange.start.character declaration.name := fun _ => rfl
  rw [idOf, idOf]
  constructor
  · intro sameId
    obtain ⟨samePath, sameLine, sameColumn, sameName⟩ :=
      NodeId.ofParts_inj leftNamed.colon_not_mem rightNamed.colon_not_mem sameId
    have sameStart : left.nameRange.start = right.nameRange.start := by
      rw [Position.mk.injEq]
      exact ⟨sameLine, sameColumn⟩
    exact ⟨samePath, sameStart, sameName⟩
  · rintro ⟨samePath, sameStart, sameName⟩
    rw [samePath, sameStart, sameName]

namespace SyntaxTree

theorem nameLine_of_mem_parse
    {keyword : Keyword} {id : TreeId} {document : Snapshot} {declaration : Declaration}
    (declared : declaration ∈ (parse keyword id document).declarations) :
    declaration.nameRange.start.line = declaration.fullRange.start.line := by
  obtain ⟨block, _, rfl⟩ := mem_declarations_parse declared
  rfl

theorem pairwise_nameLine_parse
    (keyword : Keyword) (id : TreeId) (document : Snapshot) :
    (parse keyword id document).declarations.Pairwise fun left right =>
      left.nameRange.start.line ≠ right.nameRange.start.line := by
  refine (pairwise_declarations_parse keyword id document).imp_of_mem ?_
  intro left right leftMember rightMember before
  have opens := line_lt_of_mem_parse leftMember
  rw [nameLine_of_mem_parse leftMember, nameLine_of_mem_parse rightMember]
  omega

/-- A declaration of a parse is known by the line of its name. -/
theorem eq_of_nameLine_eq
    {keyword : Keyword} {id : TreeId} {document : Snapshot} {left right : Declaration}
    (leftDeclared : left ∈ (parse keyword id document).declarations)
    (rightDeclared : right ∈ (parse keyword id document).declarations)
    (sameLine : left.nameRange.start.line = right.nameRange.start.line) :
    left = right := by
  by_contra different
  have symmetric : Std.Symm fun left right : Declaration =>
      left.nameRange.start.line ≠ right.nameRange.start.line := ⟨fun _ _ apart => apart.symm⟩
  exact (pairwise_nameLine_parse keyword id document).forall leftDeclared rightDeclared
    different sameLine

end SyntaxTree

namespace Workspace

variable {workspace : Workspace} {left right : Declaration}

theorem WellFormed.exists_tree
    (wellFormed : workspace.WellFormed) {declaration : Declaration}
    (member : declaration ∈ workspace.index.allFunctions) :
    ∃ tree ∈ workspace.index.trees, declaration.uri = tree.uri ∧
      declaration ∈
        (SyntaxTree.parse workspace.index.keyword tree.id tree.document).declarations := by
  obtain ⟨tree, indexed, declared⟩ := List.mem_flatMap.1 member
  have live := mem_liveTrees_of_indexed indexed
  have sameUri := wellFormed.uri_of_declared live declared
  rw [wellFormed.parsed tree live] at declared
  exact ⟨tree, indexed, sameUri, declared⟩

/-- Two declarations of an index with one id are in two documents with one path. -/
theorem WellFormed.eq_or_samePath
    (wellFormed : workspace.WellFormed)
    (leftMember : left ∈ workspace.index.allFunctions)
    (rightMember : right ∈ workspace.index.allFunctions)
    (sameId : left.node.id = right.node.id) :
    left = right ∨ left.uri ≠ right.uri ∧ left.uri.path = right.uri.path := by
  obtain ⟨leftTree, leftIndexed, leftUri, leftDeclared⟩ := wellFormed.exists_tree leftMember
  obtain ⟨rightTree, rightIndexed, rightUri, rightDeclared⟩ := wellFormed.exists_tree rightMember
  obtain ⟨samePath, sameStart, _⟩ :=
    (Declaration.id_node_eq_iff (SyntaxTree.isName_of_mem_parse leftDeclared)
      (SyntaxTree.isName_of_mem_parse rightDeclared)).1 sameId
  by_cases sameUri : left.uri = right.uri
  · have sameTree : leftTree = rightTree := by
      apply SyntaxIndex.eq_of_uri_eq wellFormed.distinctUris leftIndexed rightIndexed
      rw [← leftUri, ← rightUri, sameUri]
    rw [sameTree] at leftDeclared
    exact Or.inl (SyntaxTree.eq_of_nameLine_eq leftDeclared rightDeclared
      (congrArg Position.line sameStart))
  · exact Or.inr ⟨sameUri, samePath⟩

/-- No two documents of the index have references that name the same path. -/
def DistinctPaths (workspace : Workspace) : Prop :=
  (workspace.index.trees.map fun tree => tree.uri.path).Nodup

instance (workspace : Workspace) : Decidable workspace.DistinctPaths :=
  inferInstanceAs (Decidable (List.Nodup _))

/-- While documents have different paths, a declaration is known by its id. -/
theorem WellFormed.eq_of_id_eq
    (wellFormed : workspace.WellFormed) (distinctPaths : workspace.DistinctPaths)
    (leftMember : left ∈ workspace.index.allFunctions)
    (rightMember : right ∈ workspace.index.allFunctions)
    (sameId : left.node.id = right.node.id) :
    left = right := by
  rcases wellFormed.eq_or_samePath leftMember rightMember sameId with same | ⟨otherUri, samePath⟩
  · exact same
  · obtain ⟨leftTree, leftIndexed, leftUri, _⟩ := wellFormed.exists_tree leftMember
    obtain ⟨rightTree, rightIndexed, rightUri, _⟩ := wellFormed.exists_tree rightMember
    rw [leftUri, rightUri] at otherUri samePath
    have sameTree := List.inj_on_of_nodup_map distinctPaths leftIndexed rightIndexed samePath
    exact absurd (congrArg SyntaxTree.uri sameTree) otherUri

end Workspace

end CallHierarchy
