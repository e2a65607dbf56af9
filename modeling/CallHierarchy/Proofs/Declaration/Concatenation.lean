import CallHierarchy.Proofs.Declaration.Blocks
import CallHierarchy.Proofs.Document.LinePlaces

/-!
Declarations of two texts put one behind the other. A line feed between them keeps their lines apart,
so the lines of both are the lines of the one and then those of the other. A scan of the whole goes
on, at the seam, with the header that the first text left open; without one it finds what it finds in
the second text alone, on lines that are further down.
-/

namespace CallHierarchy

namespace LineIndex

theorem length_lineTexts_ofText
    {text : Text} (few : text.count '\n' + 1 < 2 ^ 32) :
    ((ofText text).lineTexts text).length = text.count '\n' + 1 := by
  have lastPresent : text.count '\n' < ((ofText text).lineTexts text).length := by
    obtain ⟨lineText, found⟩ := exists_lineText? (Nat.le_refl (text.count '\n'))
    rw [← getElem?_lineTexts_ofText few] at found
    exact (List.getElem?_eq_some_iff.1 found).1
  have nextAbsent : ((ofText text).lineTexts text)[text.count '\n' + 1]? = none := by
    rw [getElem?_lineTexts_ofText few, lineText?, line?_of_count_lt (Nat.lt_succ_self _)]
    rfl
  exact Nat.le_antisymm (List.getElem?_eq_none_iff.1 nextAbsent) lastPresent

/-- A line feed between two texts keeps their lines apart. -/
theorem lineTexts_append
    {first second : Text} (few : (first ++ '\n' :: second).count '\n' + 1 < 2 ^ 32) :
    (ofText (first ++ '\n' :: second)).lineTexts (first ++ '\n' :: second) =
      (ofText first).lineTexts first ++ (ofText second).lineTexts second := by
  have counts : (first ++ '\n' :: second).count '\n' =
      first.count '\n' + 1 + second.count '\n' := by
    rw [List.count_append, List.count_cons_self]
    omega
  have firstFew : first.count '\n' + 1 < 2 ^ 32 := by omega
  have secondFew : second.count '\n' + 1 < 2 ^ 32 := by omega
  apply List.ext_getElem?
  intro number
  rw [getElem?_lineTexts_ofText few]
  by_cases inFirst : number < first.count '\n' + 1
  · obtain ⟨head, line, rest, isLine⟩ := Text.exists_isLine (Nat.le_of_lt_succ inFirst)
    have ends : ∀ character ∈ (rest ++ '\n' :: second).head?, character = '\n' := by
      cases rest with
      | nil => simp
      | cons feed more => simpa using isLine.ends
    rw [List.getElem?_append_left (by rwa [length_lineTexts_ofText firstFew]),
      getElem?_lineTexts_ofText firstFew, isLine.lineText?_eq,
      (isLine.append ('\n' :: second) ends).lineText?_eq]
  · obtain ⟨further, rfl⟩ := Nat.exists_eq_add_of_le (Nat.le_of_not_lt inFirst)
    rw [List.getElem?_append_right (by rw [length_lineTexts_ofText firstFew]; omega),
      length_lineTexts_ofText firstFew, Nat.add_sub_cancel_left,
      getElem?_lineTexts_ofText secondFew]
    by_cases inSecond : further ≤ second.count '\n'
    · obtain ⟨head, line, rest, isLine⟩ := Text.exists_isLine inSecond
      have wholeLines : Text.lastLine (first ++ ['\n']) = [] :=
        Text.lastLine_with_feed [] first
      have inWhole := isLine.prepend wholeLines
      rw [List.count_append, List.count_singleton_self, List.append_assoc,
        List.singleton_append] at inWhole
      rw [inWhole.lineText?_eq, isLine.lineText?_eq]
    · rw [lineText?, lineText?, line?_of_count_lt (by omega), line?_of_count_lt (by omega)]

end LineIndex

/-- A scan of more lines goes on with the header that the first ones left open. -/
theorem scanLines_append
    (keyword : Keyword) (left right : List Text) (line : Nat) (opening : Option Opening) :
    scanLines keyword (left ++ right) line opening =
      ⟨(scanLines keyword left line opening).closed ++
          (scanLines keyword right (line + left.length)
            (scanLines keyword left line opening).unterminated).closed,
        (scanLines keyword right (line + left.length)
          (scanLines keyword left line opening).unterminated).unterminated⟩ := by
  induction left generalizing line opening with
  | nil => rfl
  | cons text rest inductionHypothesis =>
      have lengthEq : line + (text :: rest).length = line + 1 + rest.length := by
        rw [List.length_cons]
        omega
      rw [lengthEq, List.cons_append]
      cases opening with
      | none => rw [scanLines, scanLines, inductionHypothesis]
      | some header =>
          by_cases closes : text = closingLine
          · rw [scanLines, scanLines, if_pos closes, if_pos closes, inductionHypothesis]
            rfl
          · rw [scanLines, scanLines, if_neg closes, if_neg closes, inductionHypothesis]

def Block.moveDown (lines : Nat) (block : Block) : Block :=
  { block with first := block.first + lines, last := block.last + lines }

def Opening.moveDown (lines : Nat) (opening : Opening) : Opening :=
  { opening with line := opening.line + lines }

/-- A scan that starts further down finds the same blocks further down. -/
theorem closed_scanLines_moveDown
    (keyword : Keyword) (texts : List Text) (lines line : Nat) (opening : Option Opening) :
    (scanLines keyword texts (line + lines) (opening.map (Opening.moveDown lines))).closed =
      (scanLines keyword texts line opening).closed.map (Block.moveDown lines) := by
  induction texts generalizing line opening with
  | nil => rfl
  | cons text rest inductionHypothesis =>
      have nextLine : line + lines + 1 = line + 1 + lines := by omega
      cases opening with
      | none =>
          have opened := inductionHypothesis (line + 1)
            ((headerName? keyword text).map (Opening.mk · line))
          rw [Option.map_map] at opened
          rw [Option.map_none, scanLines, scanLines, nextLine]
          exact opened
      | some header =>
          rw [Option.map_some]
          by_cases closes : text = closingLine
          · have later := inductionHypothesis (line + 1) none
            rw [Option.map_none] at later
            rw [scanLines, scanLines, if_pos closes, if_pos closes, nextLine]
            dsimp only
            rw [later, List.map_cons]
            rfl
          · rw [scanLines, scanLines, if_neg closes, if_neg closes, nextLine]
            exact inductionHypothesis (line + 1) (some header)

/-- The name and the ranges of a declaration, without its document and its tree. -/
structure Extent where
  name : Text
  fullRange : Range
  nameRange : Range
  bodyRange : Range
  deriving DecidableEq

def Declaration.extent (declaration : Declaration) : Extent :=
  ⟨declaration.name, declaration.fullRange, declaration.nameRange, declaration.bodyRange⟩

/-- The range that stands some lines further down, in the same columns. -/
def Range.moveDown (lines : Nat) (range : Range) : Range :=
  ⟨⟨range.start.line + lines, range.start.character⟩,
    ⟨range.finish.line + lines, range.finish.character⟩⟩

def Extent.moveDown (lines : Nat) (extent : Extent) : Extent :=
  ⟨extent.name, extent.fullRange.moveDown lines, extent.nameRange.moveDown lines,
    extent.bodyRange.moveDown lines⟩

theorem extent_ofBlock_moveDown
    (keyword : Keyword) (uri other : Uri) (id otherId : TreeId) {block : Block} {lines : Nat}
    (few : block.first + 1 + lines < 2 ^ 32) :
    (Declaration.ofBlock keyword uri id (block.moveDown lines)).extent =
      (Declaration.ofBlock keyword other otherId block).extent.moveDown lines := by
  have bodyLine : Text.saturate (block.first + lines + 1) =
      Text.saturate (block.first + 1) + lines := by
    rw [Text.saturate_of_lt (by omega), Text.saturate_of_lt (by omega)]
    omega
  simp only [Declaration.ofBlock, Declaration.extent, Extent.moveDown, Block.moveDown,
    Range.moveDown, Range.onLine, bodyLine]

section Concatenation

variable {first second whole : Snapshot} (joined : whole.text = first.text ++ '\n' :: second.text)
  (few : whole.text.count '\n' + 1 < 2 ^ 32)
include joined few

theorem lineTexts_concatenation :
    whole.lineTexts = first.lineTexts ++ second.lineTexts := by
  rw [joined] at few
  rw [Snapshot.lineTexts, Snapshot.lineIndex, joined]
  exact LineIndex.lineTexts_append few

theorem length_lineTexts_concatenation :
    first.lineTexts.length = first.lineCount ∧
      first.lineCount + second.lineTexts.length < 2 ^ 32 := by
  rw [joined, List.count_append, List.count_cons_self] at few
  have firstLength : first.lineTexts.length = first.text.count '\n' + 1 :=
    LineIndex.length_lineTexts_ofText (by omega)
  have secondLength : second.lineTexts.length = second.text.count '\n' + 1 :=
    LineIndex.length_lineTexts_ofText (by omega)
  have firstCount : first.lineCount = first.text.count '\n' + 1 := by
    rw [Snapshot.lineCount, LineIndex.lineCount, Snapshot.lineIndex,
      LineIndex.length_lineStarts_ofText, Text.saturate_of_lt (by omega)]
  omega

/-- The second text is scanned with the header that the first one leaves open. -/
theorem closed_blocks_concatenation (keyword : Keyword) :
    (SyntaxTree.blocks keyword whole).closed =
      (SyntaxTree.blocks keyword first).closed ++
        (scanLines keyword second.lineTexts first.lineCount
          (SyntaxTree.blocks keyword first).unterminated).closed := by
  rw [← (length_lineTexts_concatenation joined few).1]
  unfold SyntaxTree.blocks Blocks.ofLines
  rw [lineTexts_concatenation joined few, scanLines_append, Nat.zero_add]

end Concatenation

/-- In a text made of two with a line feed between them, the declarations of the first text come
first, and if it leaves no header open, those of the second text follow, as many lines further down as
the first text has. -/
theorem declarations_of_concatenation
    (keyword : Keyword) (firstId secondId wholeId : TreeId) {first second whole : Snapshot}
    (joined : whole.text = first.text ++ '\n' :: second.text)
    (few : whole.text.count '\n' + 1 < 2 ^ 32) :
    let extents (id : TreeId) (document : Snapshot) : List Extent :=
      (SyntaxTree.parse keyword id document).declarations.map Declaration.extent
    extents firstId first <+: extents wholeId whole ∧
      ((SyntaxTree.blocks keyword first).unterminated = none →
        extents wholeId whole = extents firstId first ++
          (extents secondId second).map (Extent.moveDown first.lineCount)) := by
  intro extents
  have wholeEq := congrArg
    (List.map fun block => (Declaration.ofBlock keyword whole.uri wholeId block).extent)
    (closed_blocks_concatenation joined few keyword)
  rw [List.map_append] at wholeEq
  have asBlocks : ∀ (id : TreeId) (document : Snapshot), extents id document =
      (SyntaxTree.blocks keyword document).closed.map fun block =>
        (Declaration.ofBlock keyword whole.uri wholeId block).extent := by
    intro id document
    exact List.map_map
  rw [asBlocks wholeId, wholeEq, asBlocks firstId]
  refine ⟨List.prefix_append _ _, ?_⟩
  intro noneOpen
  have moved := closed_scanLines_moveDown keyword second.lineTexts first.lineCount 0 none
  rw [Nat.zero_add, Option.map_none] at moved
  rw [noneOpen, moved, asBlocks secondId, List.map_map, List.map_map]
  apply congrArg (_ ++ ·)
  apply List.map_congr_left
  intro block member
  obtain ⟨_, opens, closes⟩ :=
    (Blocks.ofLines_within keyword second.lineTexts).bounds block member
  have lengths := length_lineTexts_concatenation joined few
  exact extent_ofBlock_moveDown keyword _ _ _ _ (by omega)

/-- A document that ends with a carriage return, which is part of a terminator once more text
follows. -/
def finalReturn : Snapshot :=
  { uri := ⟨['a'], Eq.refl true⟩
    languageId := []
    version := 1
    text := "\nf b \x7b\n\x7d\r".toList }

theorem finalReturn_declarations_of_concatenation :
    let keyword : Keyword := ⟨['f'], Eq.refl true⟩
    let twice : Snapshot :=
      { finalReturn with text := finalReturn.text ++ '\n' :: finalReturn.text }
    let extents (document : Snapshot) : List Extent :=
      (SyntaxTree.parse keyword ⟨0⟩ document).declarations.map Declaration.extent
    twice.text.count '\n' + 1 < 2 ^ 32 ∧
      (SyntaxTree.blocks keyword finalReturn).unterminated = none ∧
      (extents finalReturn).map Extent.name = [['b']] ∧
      extents twice = extents finalReturn ++
        (extents finalReturn).map (Extent.moveDown finalReturn.lineCount) := by
  intro keyword twice extents
  have few : twice.text.count '\n' + 1 < 2 ^ 32 := by decide
  have joined : twice.text = finalReturn.text ++ '\n' :: finalReturn.text := rfl
  have noneOpen : (SyntaxTree.blocks keyword finalReturn).unterminated = none := by decide +kernel
  have joins := declarations_of_concatenation keyword ⟨0⟩ ⟨0⟩ ⟨0⟩ joined few
  exact ⟨few, noneOpen, by decide +kernel, joins.2 noneOpen⟩

end CallHierarchy
