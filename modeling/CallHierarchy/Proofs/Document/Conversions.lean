import CallHierarchy.Proofs.Document.LinePlaces

/-!
Offsets and positions of one text, converted there and back. An offset lands on the greatest boundary
that is not above it, and comes back from its position as that boundary, or as the end of the text of
its line when it lies in the terminator. A position on a line that exists lands on the first boundary
of the line with as many units before it, and comes back with the units that are really there. The
lines may have any terminators, and only the text of a line, without its terminator, has to be short
enough to be counted.
-/

namespace CallHierarchy

namespace Text

/-- The column that the units before a place count leads back to the place, or to the end of the text
of its line. -/
theorem columnOffset_columnCount
    {front back : Text} (few : unitLength (dropFinal '\r' (front ++ back)) < 2 ^ 32) :
    (dropFinal '\r' (front ++ back)).columnOffset (columnCount front) =
      min front.byteLength (dropFinal '\r' (front ++ back)).byteLength := by
  by_cases atEnd : back = []
  · subst atEnd
    rw [List.append_nil] at few ⊢
    have shorter := byteLength_le_of_isPrefix (dropFinal_isPrefix '\r' front)
    have fewerUnits := unitLength_le_of_isPrefix (dropFinal_isPrefix '\r' front)
    have past : unitLength (dropFinal '\r' front) ≤ columnCount front := by
      unfold columnCount saturate countLimit
      omega
    rw [columnOffset_of_unitLength_le past, Nat.min_eq_right shorter]
  · rw [dropFinal_append '\r' front atEnd] at few ⊢
    rw [unitLength_append] at few
    have exactCount : columnCount front = unitLength front :=
      saturate_of_lt (by omega)
    rw [exactCount, LineIndex.columnOffset_append, byteLength_append]
    omega

theorem endPosition_atOrBefore
    {before middle : Text} (fewLines : (before ++ middle).count '\n' + 1 < 2 ^ 32) :
    (endPosition before).atOrBefore (endPosition (before ++ middle)) = true := by
  have lines : (before ++ middle).count '\n' = before.count '\n' + middle.count '\n' :=
    List.count_append
  rw [Position.atOrBefore_iff_not_before, Position.Before, endPosition, endPosition,
    saturate_of_lt (by omega), saturate_of_lt (by omega)]
  by_cases hasFeed : '\n' ∈ middle
  · have more : 0 < middle.count '\n' := List.count_pos_iff.2 hasFeed
    dsimp only
    omega
  · have wider : columnCount (lastLine before) ≤
        columnCount (lastLine (before ++ middle)) := by
      rw [lastLine_append_of_not_mem before hasFeed]
      unfold columnCount saturate
      rw [unitLength_append]
      omega
    dsimp only
    omega

end Text

namespace LineIndex

/-- An offset has the position of the boundary that it lands on. -/
theorem exists_position_eq
    (text : Text) (offset : Nat) :
    ∃ before behind, text = before ++ behind ∧
      before.byteLength = text.floorBoundary offset ∧
      (ofText text).position text offset = Text.endPosition before := by
  obtain ⟨before, behind, textEq, lengthEq⟩ := Text.exists_floorBoundary text offset
  have again : text.floorBoundary before.byteLength = before.byteLength := by
    rw [textEq]
    exact Text.floorBoundary_append before behind
  have positionEq : (ofText text).position text before.byteLength = Text.endPosition before := by
    rw [textEq]
    exact position_ofText_append before behind
  refine ⟨before, behind, textEq, lengthEq, ?_⟩
  rw [← positionEq, position, position, again, lengthEq]

/-- The position of a place leads back to it, or to the end of the text of its line if that comes
first. -/
theorem offset_endPosition
    {text : Text} {number : Nat} {head front back rest : Text} (fits : Text.FitsLines text)
    (isLine : Text.IsLine text number head (front ++ back) rest) :
    (ofText text).offset text (Text.endPosition (head ++ front)) =
      min (head ++ front).byteLength
        (head ++ Text.dropFinal '\r' (front ++ back)).byteLength := by
  rw [isLine.endPosition_eq, isLine.saturate_number fits, isLine.offset_eq,
    Text.columnOffset_columnCount (isLine.unitLength_lt fits), Text.byteLength_append,
    Text.byteLength_append]
  omega

/-- A greater offset has no earlier position. -/
theorem position_mono
    {text : Text} (fewLines : text.count '\n' + 1 < 2 ^ 32) {offset later : Nat}
    (ordered : offset ≤ later) :
    ((ofText text).position text offset).atOrBefore ((ofText text).position text later) = true := by
  obtain ⟨before, behind, textEq, lengthEq, positionEq⟩ := exists_position_eq text offset
  obtain ⟨longer, rest, laterEq, laterLengthEq, laterPositionEq⟩ := exists_position_eq text later
  have notLonger : before.byteLength ≤ longer.byteLength := by
    rw [lengthEq, laterLengthEq]
    exact Text.floorBoundary_mono text ordered
  obtain ⟨middle, longerEq, _⟩ :=
    Text.exists_append_of_byteLength_le (textEq.symm.trans laterEq) notLonger
  rw [positionEq, laterPositionEq, longerEq]
  apply Text.endPosition_atOrBefore
  rw [laterEq, longerEq, List.count_append] at fewLines
  omega

/-- Every offset lands on the greatest boundary that is not above it, behind `head ++ front`. Its
position is on the line of that boundary, and leads back to the boundary or, where the boundary lies
behind the text of the line, to the end of that text. A boundary in the text of its line comes back as
it was, and greater offsets have later positions. -/
theorem offsets_survive_round_trip
    {text : Text} (fits : Text.FitsLines text) :
    let index := ofText text
    (∀ offset, ∃ number head front back rest,
      Text.IsLine text number head (front ++ back) rest ∧
        IsGreatest {boundary | text.isBoundary boundary = true ∧
          boundary ≤ min offset text.byteLength} (head ++ front).byteLength ∧
        index.offset text (index.position text offset) =
          min (head ++ front).byteLength
            (head ++ Text.dropFinal '\r' (front ++ back)).byteLength ∧
        (index.position text offset).line = (head ++ front).count '\n') ∧
      (∀ number head front back rest, Text.IsLine text number head (front ++ back) rest →
        (head ++ front).byteLength ≤
          (head ++ Text.dropFinal '\r' (front ++ back)).byteLength →
        index.offset text (index.position text (head ++ front).byteLength) =
          (head ++ front).byteLength) ∧
      ∀ offset later, offset ≤ later →
        (index.position text offset).atOrBefore (index.position text later) = true := by
  intro index
  refine ⟨?_, ?_, fun offset later => position_mono fits.lines⟩
  · intro offset
    obtain ⟨before, behind, textEq, lengthEq, positionEq⟩ := exists_position_eq text offset
    obtain ⟨number, head, front, back, rest, isLine, rfl, _⟩ :=
      Text.exists_isLine_around before behind
    rw [← textEq] at isLine
    refine ⟨number, head, front, back, rest, isLine, ?_, ?_, ?_⟩
    · obtain ⟨⟨isBoundary, within⟩, greatest⟩ := Text.isGreatest_floorBoundary text offset
      rw [lengthEq]
      refine ⟨⟨isBoundary, ?_⟩, ?_⟩
      · exact Nat.le_min.2 ⟨within, Text.le_byteLength_of_isBoundary isBoundary⟩
      · rintro boundary ⟨isOther, below⟩
        exact greatest ⟨isOther, Nat.le_trans below (Nat.min_le_left _ _)⟩
    · rw [positionEq]
      exact offset_endPosition fits isLine
    · have fewLines : (head ++ front).count '\n' + 1 < 2 ^ 32 := by
        have lines := fits.lines
        rw [textEq, List.count_append] at lines
        omega
      rw [positionEq, Text.endPosition, Text.saturate_of_lt (by omega)]
  · intro number head front back rest isLine inText
    rw [isLine.position_eq, offset_endPosition fits isLine, Nat.min_eq_left inText]

/-- A text whose lines have terminators of both kinds, one of them missing, and characters of one to
four bytes. -/
def mixedWidths : Text :=
  "aé\r\n\n€😀x\r".toList

theorem mixedWidths_offsets_survive :
    Text.FitsLines mixedWidths ∧
      Text.IsLine mixedWidths 2 "aé\r\n\n".toList ("€😀".toList ++ "x\r".toList) [] ∧
      (ofText mixedWidths).offset mixedWidths ((ofText mixedWidths).position mixedWidths 13) = 13 ∧
      ∀ offset later, offset ≤ later →
        ((ofText mixedWidths).position mixedWidths offset).atOrBefore
          ((ofText mixedWidths).position mixedWidths later) = true := by
  have fits : Text.FitsLines mixedWidths := Text.FitsPositions.fitsLines (by decide)
  have isLine : Text.IsLine mixedWidths 2 "aé\r\n\n".toList
      ("€😀".toList ++ "x\r".toList) [] :=
    { textEq := by decide
      numbered := by decide
      starts := by decide
      noFeed := by decide
      ends := by simp }
  obtain ⟨_, survives, monotone⟩ := offsets_survive_round_trip fits
  exact ⟨fits, isLine, survives 2 _ _ _ _ isLine (by decide), monotone⟩

/-- A position on a line that exists lands on the first boundary of its line with as many units before
it, or on the end of the line. Back from there come the line and the units before that boundary, and
this is the same position exactly when some boundary of the line has that column. -/
theorem positions_land_on_boundaries
    {text : Text} (fits : Text.FitsLines text) {line : Nat}
    (present : line < (ofText text).lineCount) (column : Nat) :
    let index := ofText text
    ∃ head whole rest before behind,
      Text.IsLine text line head whole rest ∧
        index.lineText? text line = some (Text.dropFinal '\r' whole) ∧
        Text.FirstAtColumn (Text.dropFinal '\r' whole) column before behind ∧
        index.offset text ⟨line, column⟩ = (head ++ before).byteLength ∧
        index.position text (index.offset text ⟨line, column⟩) =
          ⟨line, Text.unitLength before⟩ ∧
        (index.position text (index.offset text ⟨line, column⟩) = ⟨line, column⟩ ↔
          ∃ front back, Text.dropFinal '\r' whole = front ++ back ∧
            Text.unitLength front = column) := by
  intro index
  have within : line ≤ text.count '\n' := by
    rw [lineCount, length_lineStarts_ofText, Text.saturate_of_lt fits.lines] at present
    omega
  obtain ⟨head, whole, rest, isLine⟩ := Text.exists_isLine within
  obtain ⟨before, behind, found, columnEq⟩ :=
    Text.exists_firstAtColumn (Text.dropFinal '\r' whole) column
  have offsetEq : index.offset text ⟨line, column⟩ = (head ++ before).byteLength := by
    rw [isLine.offset_eq, columnEq, Text.byteLength_append]
  have positionEq : index.position text (index.offset text ⟨line, column⟩) =
      ⟨line, Text.unitLength before⟩ := by
    rw [offsetEq]
    exact isLine.position_of_text fits found.lineEq
  refine ⟨head, whole, rest, before, behind, isLine, isLine.lineText?_eq, found, offsetEq,
    positionEq, ?_⟩
  rw [positionEq, ← found.unitLength_eq_iff, Position.mk.injEq]
  exact and_iff_right rfl

/-- Column 2 is inside the character of two units on that line, so no boundary has it. -/
theorem mixedWidths_positions_land :
    Text.FitsLines mixedWidths ∧ 2 < (ofText mixedWidths).lineCount ∧
      (∃ before behind, Text.FirstAtColumn "€😀x".toList 2 before behind ∧
        (ofText mixedWidths).position mixedWidths
          ((ofText mixedWidths).offset mixedWidths ⟨2, 2⟩) = ⟨2, Text.unitLength before⟩) ∧
      ¬ ∃ front back, "€😀x".toList = front ++ back ∧ Text.unitLength front = 2 := by
  have fits : Text.FitsLines mixedWidths := Text.FitsPositions.fitsLines (by decide)
  have present : 2 < (ofText mixedWidths).lineCount := by decide
  obtain ⟨head, whole, rest, before, behind, _, lineEq, found, _, positionEq, exactly⟩ :=
    positions_land_on_boundaries fits present 2
  have read : (ofText mixedWidths).lineText? mixedWidths 2 = some "€😀x".toList := by decide
  rw [← Option.some.inj (read.symm.trans lineEq)] at found exactly
  refine ⟨fits, present, ⟨before, behind, found, positionEq⟩, ?_⟩
  rw [← exactly]
  decide

end LineIndex

end CallHierarchy
