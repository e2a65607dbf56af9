import CallHierarchy.Declaration.Tree
import Mathlib.Data.List.Pairwise
import Mathlib.Data.List.TakeWhile

/-!
Where blocks stand and what they are called. Every block opens before it closes, blocks follow one
another without touching, and a name is a run of name characters that is not empty. The
declarations of a parse inherit all of this.
-/

namespace CallHierarchy

/-- Blocks that lie one after the other between two lines. -/
structure BlocksWithin (lower upper : Nat) (blocks : List Block) : Prop where
  bounds : ∀ block ∈ blocks,
    lower ≤ block.first ∧ block.first < block.last ∧ block.last < upper
  ordered : blocks.Pairwise fun left right => left.last < right.first

namespace BlocksWithin

theorem nil (lower upper : Nat) : BlocksWithin lower upper [] :=
  ⟨by simp, List.Pairwise.nil⟩

theorem weaken
    {lower upper smaller : Nat} {blocks : List Block}
    (within : BlocksWithin lower upper blocks) (below : smaller ≤ lower) :
    BlocksWithin smaller upper blocks := by
  refine ⟨?_, within.ordered⟩
  intro block member
  obtain ⟨starts, opens, closes⟩ := within.bounds block member
  exact ⟨Nat.le_trans below starts, opens, closes⟩

theorem cons
    (block : Block) {upper : Nat} {later : List Block}
    (opens : block.first < block.last) (closes : block.last < upper)
    (within : BlocksWithin (block.last + 1) upper later) :
    BlocksWithin block.first upper (block :: later) := by
  constructor
  · intro member inBlocks
    rcases List.mem_cons.1 inBlocks with rfl | inLater
    · exact ⟨Nat.le_refl _, opens, closes⟩
    · obtain ⟨starts, memberOpens, memberCloses⟩ := within.bounds member inLater
      exact ⟨by omega, memberOpens, memberCloses⟩
  · refine List.pairwise_cons.2 ⟨?_, within.ordered⟩
    intro member inLater
    exact (within.bounds member inLater).1

end BlocksWithin

/-- The first line that a block can open on: that of the header still open, or the next line. -/
def scanStart (line : Nat) : Option Opening → Nat
  | none => line
  | some opening => opening.line

/-- A scan finds its blocks among the lines that it reads and the header that was open. -/
theorem scanLines_within
    (keyword : Keyword) (lines : List Text) (line : Nat) (opening : Option Opening)
    (opened : ∀ header ∈ opening, header.line < line) :
    BlocksWithin (scanStart line opening) (line + lines.length)
      (scanLines keyword lines line opening).closed := by
  induction lines generalizing line opening with
  | nil => exact BlocksWithin.nil _ _
  | cons text rest inductionHypothesis =>
      have upperEq : line + (text :: rest).length = line + 1 + rest.length := by
        rw [List.length_cons]
        omega
      rw [upperEq]
      cases opening with
      | none =>
          rw [scanLines]
          cases named : headerName? keyword text with
          | none =>
              have later := inductionHypothesis (line + 1) none (by simp)
              exact later.weaken (Nat.le_succ line)
          | some name =>
              exact inductionHypothesis (line + 1) (some ⟨name, line⟩) (by simp)
      | some header =>
          have headerBefore : header.line < line := opened header rfl
          by_cases closes : text = closingLine
          · rw [scanLines, if_pos closes]
            have later := inductionHypothesis (line + 1) none (by simp)
            have closesWithin : line < line + 1 + rest.length := by omega
            exact BlocksWithin.cons ⟨header.name, header.line, line⟩ headerBefore
              closesWithin later
          · rw [scanLines, if_neg closes]
            apply inductionHypothesis (line + 1) (some header)
            intro other same
            cases same
            omega

/-- The blocks of a list of lines lie one after the other on these lines. -/
theorem Blocks.ofLines_within
    (keyword : Keyword) (lines : List Text) :
    BlocksWithin 0 lines.length (Blocks.ofLines keyword lines).closed := by
  have within := scanLines_within keyword lines 0 none (by simp)
  rwa [Nat.zero_add] at within

/-- A run of name characters that is not empty. -/
structure IsName (name : Text) : Prop where
  nonempty : name ≠ []
  characters : ∀ character ∈ name, isNameCharacter character = true

theorem isName_of_headerName?
    {keyword : Keyword} {line name : Text}
    (named : headerName? keyword line = some name) :
    IsName name := by
  obtain ⟨rest, _, restNamed⟩ := Option.bind_eq_some_iff.1 named
  dsimp only at restNamed
  split at restNamed
  · cases restNamed
  · rename_i accepted
    cases restNamed
    constructor
    · intro empty
      simp [empty] at accepted
    · intro character member
      exact List.mem_takeWhile_imp member

theorem scanLines_isName
    (keyword : Keyword) (lines : List Text) (line : Nat) (opening : Option Opening)
    (openedName : ∀ header ∈ opening, IsName header.name) :
    ∀ block ∈ (scanLines keyword lines line opening).closed, IsName block.name := by
  induction lines generalizing line opening with
  | nil => simp [scanLines]
  | cons text rest inductionHypothesis =>
      cases opening with
      | none =>
          rw [scanLines]
          apply inductionHypothesis
          intro header opened
          obtain ⟨name, named, rfl⟩ := Option.map_eq_some_iff.1 opened
          exact isName_of_headerName? named
      | some header =>
          by_cases closes : text = closingLine
          · rw [scanLines, if_pos closes]
            intro block member
            rcases List.mem_cons.1 member with rfl | inLater
            · exact openedName header rfl
            · exact inductionHypothesis (line + 1) none (by simp) block inLater
          · rw [scanLines, if_neg closes]
            exact inductionHypothesis (line + 1) (some header) openedName

/-- The declaration with the number of its tree forgotten: declarations that agree on this differ
in their trees only. -/
def Declaration.withoutTree (declaration : Declaration) : Declaration :=
  { declaration with tree := ⟨0⟩ }

theorem Snapshot.lineTexts_congr
    {left right : Snapshot} (sameText : left.text = right.text) :
    left.lineTexts = right.lineTexts := by
  rw [lineTexts, lineTexts, lineIndex, lineIndex, sameText]

namespace SyntaxTree

theorem map_withoutTree_parse
    (keyword : Keyword) (id : TreeId) (document : Snapshot) :
    (parse keyword id document).declarations.map Declaration.withoutTree =
      (parse keyword ⟨0⟩ document).declarations := by
  rw [parse, parse, List.map_map]
  rfl

/-- A parse depends on nothing of a document but its URI and the texts of its lines. -/
theorem declarations_parse_congr
    (keyword : Keyword) (id : TreeId) {left right : Snapshot}
    (sameUri : left.uri = right.uri) (sameLines : left.lineTexts = right.lineTexts) :
    (parse keyword id left).declarations = (parse keyword id right).declarations := by
  rw [parse, parse, blocks, blocks, sameUri, sameLines]

theorem mem_declarations_parse
    {keyword : Keyword} {id : TreeId} {document : Snapshot} {declaration : Declaration}
    (declared : declaration ∈ (parse keyword id document).declarations) :
    ∃ block ∈ (blocks keyword document).closed,
      declaration = Declaration.ofBlock keyword document.uri id block := by
  obtain ⟨block, member, blockEq⟩ := List.mem_map.1 declared
  exact ⟨block, member, blockEq.symm⟩

theorem isName_of_mem_parse
    {keyword : Keyword} {id : TreeId} {document : Snapshot} {declaration : Declaration}
    (declared : declaration ∈ (parse keyword id document).declarations) :
    IsName declaration.name := by
  obtain ⟨block, member, rfl⟩ := mem_declarations_parse declared
  exact scanLines_isName keyword document.lineTexts 0 none (by simp) block member

theorem uri_of_mem_parse
    {keyword : Keyword} {id : TreeId} {document : Snapshot} {declaration : Declaration}
    (declared : declaration ∈ (parse keyword id document).declarations) :
    declaration.uri = document.uri := by
  obtain ⟨block, _, rfl⟩ := mem_declarations_parse declared
  rfl

theorem line_lt_of_mem_parse
    {keyword : Keyword} {id : TreeId} {document : Snapshot} {declaration : Declaration}
    (declared : declaration ∈ (parse keyword id document).declarations) :
    declaration.fullRange.start.line < declaration.fullRange.finish.line := by
  obtain ⟨block, member, rfl⟩ := mem_declarations_parse declared
  exact ((Blocks.ofLines_within keyword document.lineTexts).bounds block member).2.1

/-- Each declaration of a parse ends on an earlier line than the later ones start. -/
theorem pairwise_declarations_parse
    (keyword : Keyword) (id : TreeId) (document : Snapshot) :
    (parse keyword id document).declarations.Pairwise fun left right =>
      left.fullRange.finish.line < right.fullRange.start.line :=
  List.pairwise_map.2 (Blocks.ofLines_within keyword document.lineTexts).ordered

theorem pairwise_fullRange_parse
    (keyword : Keyword) (id : TreeId) (document : Snapshot) :
    (parse keyword id document).declarations.Pairwise fun left right =>
      left.fullRange ≠ right.fullRange := by
  refine (pairwise_declarations_parse keyword id document).imp_of_mem ?_
  intro left right leftMember _ before sameRange
  have opens := line_lt_of_mem_parse leftMember
  rw [← sameRange] at before
  omega

/-- A declaration of a parse is known by its range. -/
theorem eq_of_fullRange_eq
    {keyword : Keyword} {id : TreeId} {document : Snapshot} {left right : Declaration}
    (leftDeclared : left ∈ (parse keyword id document).declarations)
    (rightDeclared : right ∈ (parse keyword id document).declarations)
    (sameRange : left.fullRange = right.fullRange) :
    left = right := by
  by_contra different
  have symmetric : Std.Symm fun left right : Declaration =>
      left.fullRange ≠ right.fullRange := ⟨fun _ _ apart => apart.symm⟩
  exact (pairwise_fullRange_parse keyword id document).forall leftDeclared rightDeclared
    different sameRange

end SyntaxTree

end CallHierarchy
