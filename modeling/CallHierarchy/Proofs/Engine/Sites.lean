import CallHierarchy.Engine.Direct
import CallHierarchy.Proofs.Declaration.Blocks
import CallHierarchy.Proofs.Document.LinePlaces
import CallHierarchy.Proofs.Text.Occurrence

/-!
Where the sites of a call stand. In a document whose lines and columns can be counted, every site
found in a body starts on a line strictly between the header and the closing line, and the sites of
one body start one after the other.
-/

namespace CallHierarchy

namespace Snapshot

theorem positionAt_of_append
    {document : Snapshot} {before behind : Text}
    (textEq : document.text = before ++ behind) :
    document.positionAt (Text.byteLength before) = Text.endPosition before := by
  unfold positionAt lineIndex
  rw [textEq]
  exact LineIndex.position_ofText_append before behind

/-- Later places between characters have later positions. -/
theorem positionAt_before
    {document : Snapshot} (fits : Text.FitsPositions document.text)
    {before behind later rest : Text}
    (textEq : document.text = before ++ behind) (laterEq : document.text = later ++ rest)
    (shorter : Text.byteLength before < Text.byteLength later) :
    (document.positionAt (Text.byteLength before)).Before
      (document.positionAt (Text.byteLength later)) := by
  obtain ⟨middle, middleEq, _⟩ := Text.exists_append_of_byteLength_le
    (textEq.symm.trans laterEq) (Nat.le_of_lt shorter)
  have longer : middle ≠ [] := by
    rintro rfl
    rw [middleEq, List.append_nil] at shorter
    exact Nat.lt_irrefl _ shorter
  rw [laterEq, middleEq] at fits
  rw [positionAt_of_append textEq, positionAt_of_append laterEq, middleEq]
  exact fits.of_append.endPosition_before longer

theorem positionAt_atOrBefore
    {document : Snapshot} (fits : Text.FitsPositions document.text)
    {before behind later rest : Text}
    (textEq : document.text = before ++ behind) (laterEq : document.text = later ++ rest)
    (notLonger : Text.byteLength before ≤ Text.byteLength later) :
    (document.positionAt (Text.byteLength before)).atOrBefore
      (document.positionAt (Text.byteLength later)) = true := by
  rcases Nat.eq_or_lt_of_le notLonger with same | shorter
  · rw [same]
    simp [Position.atOrBefore]
  · exact (positionAt_before fits textEq laterEq shorter).atOrBefore

theorem offsetAt_endPosition
    {document : Snapshot} (fits : Text.FitsPositions document.text)
    {before behind : Text} (textEq : document.text = before ++ behind)
    (inLine : Text.InLine before behind) :
    document.offsetAt (Text.endPosition before) = Text.byteLength before := by
  have beforeFits : Text.FitsPositions before := by
    rw [textEq] at fits
    exact fits.of_append
  have positionEq : Text.endPosition before =
      ⟨before.count '\n', Text.unitLength (Text.lastLine before)⟩ := by
    rw [← beforeFits.line_endPosition, ← beforeFits.character_endPosition]
  rw [positionEq]
  unfold offsetAt lineIndex
  rw [textEq]
  exact LineIndex.offset_ofText_of_inLine inLine

/-- The text between two places is what stands between them, if both are in the visible parts of
their lines. -/
theorem textIn_endPosition
    {document : Snapshot} (fits : Text.FitsPositions document.text)
    {before middle behind : Text} (textEq : document.text = before ++ (middle ++ behind))
    (startInLine : Text.InLine before (middle ++ behind))
    (finishInLine : Text.InLine (before ++ middle) behind) :
    document.textIn ⟨Text.endPosition before, Text.endPosition (before ++ middle)⟩ = middle := by
  have finishEq : document.text = (before ++ middle) ++ behind := by
    rw [textEq, List.append_assoc]
  have startOffset := offsetAt_endPosition fits textEq startInLine
  have finishOffset := offsetAt_endPosition fits finishEq finishInLine
  have stopEq : max (Text.byteLength (before ++ middle)) (Text.byteLength before) =
      Text.byteLength before + Text.byteLength middle := by
    rw [Text.byteLength_append]
    omega
  unfold textIn
  dsimp only
  rw [startOffset, finishOffset, stopEq, textEq, Text.slice?_append, Option.getD_some]

theorem length_lineTexts_le
    (document : Snapshot) :
    document.lineTexts.length ≤ document.text.count '\n' + 1 := by
  rw [← LineIndex.length_lineStarts_ofText]
  calc document.lineTexts.length
      ≤ (((List.range document.lineIndex.lineCount).map
          (document.lineIndex.lineText? document.text)).takeWhile Option.isSome).length :=
        List.length_filterMap_le _ _
    _ ≤ ((List.range document.lineIndex.lineCount).map
          (document.lineIndex.lineText? document.text)).length :=
        (List.takeWhile_prefix _).length_le
    _ = document.lineIndex.lineCount := by
        rw [List.length_map, List.length_range]
    _ ≤ document.lineIndex.lineStarts.length := Nat.min_le_left _ _

end Snapshot

theorem not_mem_of_isName
    {name : Text} (named : IsName name) :
    '\n' ∉ name := by
  intro member
  have isNameFeed := named.characters '\n' member
  revert isNameFeed
  decide

theorem exists_linesCut_block
    {keyword : Keyword} {document : Snapshot} {block : Block}
    (member : block ∈ (SyntaxTree.blocks keyword document).closed) :
    ∃ head body tail,
      LinesCut document.text (block.first + 1) block.last head body tail := by
  obtain ⟨_, opens, closes⟩ :=
    (Blocks.ofLines_within keyword document.lineTexts).bounds block member
  have fewLines := document.length_lineTexts_le
  exact exists_linesCut opens (by omega)

theorem LinesCut.textEq_copy
    {text head body tail word before behind : Text} {low high : Nat}
    (cut : LinesCut text low high head body tail)
    (bodyEq : body = before ++ (word ++ behind)) :
    text = (head ++ before) ++ (word ++ (behind ++ tail)) := by
  rw [cut.textEq, bodyEq]
  simp only [List.append_assoc]

/-- A word without line feeds that occurs in whole lines starts on one of them. -/
theorem LinesCut.count_before
    {text head body tail word before behind : Text} {low high : Nat}
    (cut : LinesCut text low high head body tail)
    (nonempty : word ≠ []) (noFeed : '\n' ∉ word)
    (bodyEq : body = before ++ (word ++ behind)) :
    low ≤ (head ++ before).count '\n' ∧ (head ++ before).count '\n' < high := by
  have wholeEq : head ++ body = (head ++ before ++ word) ++ behind := by
    rw [bodyEq]
    simp only [List.append_assoc]
  have feedBehind : '\n' ∈ behind := by
    by_contra noFeedBehind
    have stillOpen := cut.bodyStart
    rw [wholeEq, Text.lastLine_append_of_not_mem _ noFeedBehind,
      Text.lastLine_append_of_not_mem _ noFeed] at stillOpen
    simp [nonempty] at stillOpen
  have feeds : 0 < behind.count '\n' := List.count_pos_iff.2 feedBehind
  have countEq := cut.bodyCount
  rw [wholeEq] at countEq
  simp only [List.count_append] at countEq ⊢
  have headCount := cut.headCount
  omega

section ParsedDocument

variable {keyword : Keyword} {id : TreeId} {document : Snapshot} {declaration : Declaration}

/-- The body of a declaration is made of the whole lines between its header and its closing line. -/
theorem exists_linesCut_body
    (fits : Text.FitsPositions document.text)
    (declared : declaration ∈ (SyntaxTree.parse keyword id document).declarations) :
    ∃ head body tail,
      LinesCut document.text (declaration.fullRange.start.line + 1)
          declaration.fullRange.finish.line head body tail ∧
        declaration.bodyRange =
          ⟨⟨declaration.fullRange.start.line + 1, 0⟩, ⟨declaration.fullRange.finish.line, 0⟩⟩ := by
  obtain ⟨block, member, rfl⟩ := SyntaxTree.mem_declarations_parse declared
  obtain ⟨head, body, tail, cut⟩ := exists_linesCut_block member
  have headSmall : block.first + 1 < 2 ^ 32 := by
    have lines := fits.lines
    rw [cut.textEq, List.count_append, cut.headCount] at lines
    omega
  refine ⟨head, body, tail, cut, ?_⟩
  simp only [Declaration.ofBlock, Text.saturate_of_lt headSmall]

section Body

variable {low high : Nat} {head body tail : Text}

theorem LinesCut.bodyText_eq
    (cut : LinesCut document.text low high head body tail)
    (bodyRangeEq : declaration.bodyRange = ⟨⟨low, 0⟩, ⟨high, 0⟩⟩) :
    (SyntaxTree.parse keyword id document).bodyText declaration = body := by
  rw [SyntaxTree.bodyText, bodyRangeEq]
  exact cut.textIn_eq

theorem LinesCut.offsetAt_body
    (cut : LinesCut document.text low high head body tail)
    (bodyRangeEq : declaration.bodyRange = ⟨⟨low, 0⟩, ⟨high, 0⟩⟩) :
    document.offsetAt declaration.bodyRange.start = Text.byteLength head := by
  rw [bodyRangeEq]
  exact cut.offsetAt_low

/-- The sites of a name in a body, counted from the start of the body. -/
theorem LinesCut.callSites_eq
    (cut : LinesCut document.text low high head body tail)
    (bodyRangeEq : declaration.bodyRange = ⟨⟨low, 0⟩, ⟨high, 0⟩⟩) (name : Text) :
    (SyntaxTree.parse keyword id document).callSites declaration name =
      (Text.occurrences name body).map fun offset =>
        { uri := document.uri
          range :=
            { start := document.positionAt (Text.byteLength head + offset)
              finish := document.positionAt
                (Text.byteLength head + offset + name.byteLength) } } := by
  unfold SyntaxTree.callSites
  dsimp only
  rw [cut.bodyText_eq bodyRangeEq]
  simp only [SyntaxTree.parse, SyntaxTree.uri, cut.offsetAt_body bodyRangeEq]

end Body

/-- A site lies on a line between the header and the closing line. -/
theorem line_of_mem_callSites
    (fits : Text.FitsPositions document.text)
    (declared : declaration ∈ (SyntaxTree.parse keyword id document).declarations)
    {name : Text} (named : IsName name) {site : Location}
    (member : site ∈ (SyntaxTree.parse keyword id document).callSites declaration name) :
    site.uri = document.uri ∧
      declaration.fullRange.start.line < site.range.start.line ∧
        site.range.start.line < declaration.fullRange.finish.line := by
  obtain ⟨head, body, tail, cut, bodyRangeEq⟩ := exists_linesCut_body fits declared
  rw [cut.callSites_eq bodyRangeEq] at member
  obtain ⟨offset, found, rfl⟩ := List.mem_map.1 member
  obtain ⟨before, behind, bodyEq, rfl⟩ := Text.exists_of_mem_occurrences found
  have textEq := cut.textEq_copy bodyEq
  have startEq : document.positionAt (Text.byteLength head + Text.byteLength before) =
      Text.endPosition (head ++ before) := by
    rw [← Text.byteLength_append]
    exact Snapshot.positionAt_of_append textEq
  have beforeFits : Text.FitsPositions (head ++ before) := by
    rw [textEq] at fits
    exact fits.of_append
  have lineBounds := cut.count_before named.nonempty (not_mem_of_isName named) bodyEq
  refine ⟨rfl, ?_, ?_⟩
  · rw [startEq, beforeFits.line_endPosition]
    exact lineBounds.1
  · rw [startEq, beforeFits.line_endPosition]
    exact lineBounds.2

theorem pairwise_callSites
    (fits : Text.FitsPositions document.text)
    (declared : declaration ∈ (SyntaxTree.parse keyword id document).declarations)
    (name : Text) :
    ((SyntaxTree.parse keyword id document).callSites declaration name).Pairwise
      fun left right => left.range.start.Before right.range.start := by
  obtain ⟨head, body, tail, cut, bodyRangeEq⟩ := exists_linesCut_body fits declared
  rw [cut.callSites_eq bodyRangeEq, List.pairwise_map]
  refine (Text.pairwise_occurrences name body).imp_of_mem ?_
  intro left right leftFound rightFound ordered
  obtain ⟨leftBefore, leftBehind, leftEq, rfl⟩ := Text.exists_of_mem_occurrences leftFound
  obtain ⟨rightBefore, rightBehind, rightEq, rfl⟩ := Text.exists_of_mem_occurrences rightFound
  dsimp only
  rw [← Text.byteLength_append, ← Text.byteLength_append]
  apply Snapshot.positionAt_before fits (cut.textEq_copy leftEq) (cut.textEq_copy rightEq)
  rw [Text.byteLength_append, Text.byteLength_append]
  omega

end ParsedDocument

end CallHierarchy
