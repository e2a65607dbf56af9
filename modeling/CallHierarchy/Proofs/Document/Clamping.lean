import CallHierarchy.Proofs.Document.Conversions
import CallHierarchy.Proofs.Document.OtherTexts

/-!
Positions that need not exist. On a line that exists every column is taken to a place between the
start of the line and the end of its text; past the last line every column is taken to the end of
the whole text. So each position has the offset of a boundary, later positions have offsets that are
not lower, and an offset that comes from a position comes back from its own position. The exception
is a carriage return at the very end: it is cut off the text of the last line although no line feed
follows it, so that the end of the whole text lies behind every place of the last line.
-/

namespace CallHierarchy

namespace Text

theorem dropFinal_eq_self_iff
    {character : Char} {text : Text} :
    dropFinal character text = text ↔ text.getLast? ≠ some character := by
  constructor
  · intro unchanged isLast
    have nonempty : text ≠ [] := by
      rintro rfl
      cases isLast
    rw [dropFinal, if_pos isLast] at unchanged
    have lengths := congrArg List.length unchanged
    have positive : 0 < text.length := List.length_pos_iff.2 nonempty
    rw [List.length_dropLast] at lengths
    omega
  · exact dropFinal_of_getLast?_ne

theorem byteLength_dropFinal_eq_iff
    {character : Char} {text : Text} :
    (dropFinal character text).byteLength = text.byteLength ↔
      text.getLast? ≠ some character := by
  rw [← dropFinal_eq_self_iff]
  constructor
  · intro sameLength
    obtain ⟨dropped, textEq⟩ := dropFinal_isPrefix character text
    have same : dropFinal character text ++ dropped = text ++ [] := by
      rw [textEq, List.append_nil]
    exact (append_inj_of_byteLength_eq same sameLength).1
  · intro unchanged
    rw [unchanged]

namespace IsLine

variable {text : Text} {number : Nat} {head line rest : Text}

theorem offset_le
    (isLine : IsLine text number head line rest) (column : Nat) :
    (LineIndex.ofText text).offset text ⟨number, column⟩ ≤ (head ++ line).byteLength := by
  obtain ⟨before, behind, found, columnEq⟩ := exists_firstAtColumn (dropFinal '\r' line) column
  have beginning : before <+: line :=
    List.IsPrefix.trans ⟨behind, found.lineEq.symm⟩ (dropFinal_isPrefix '\r' line)
  rw [isLine.offset_eq, columnEq, byteLength_append]
  exact Nat.add_le_add_left (byteLength_le_of_isPrefix beginning) _

/-- A later line starts behind the text of an earlier one. -/
theorem byteLength_line_le_head
    {later : Nat} {laterHead laterLine laterRest : Text}
    (isLine : IsLine text number head line rest)
    (isLater : IsLine text later laterHead laterLine laterRest) (lower : number < later) :
    (head ++ line).byteLength ≤ laterHead.byteLength := by
  obtain ⟨more, restEq⟩ := isLine.exists_feed (Nat.lt_of_lt_of_le lower isLater.number_le)
  have cutBehindFeed : (head ++ (line ++ ['\n'])) ++ more = laterHead ++ (laterLine ++ laterRest) := by
    rw [← isLater.textEq, isLine.textEq, restEq]
    simp only [List.append_assoc, List.singleton_append]
  obtain ⟨middle, laterHeadEq, _⟩ := exists_append_of_count_le cutBehindFeed
    (lastLine_with_feed head line) (by rw [isLine.count_with_feed, isLater.numbered]; exact lower)
  rw [laterHeadEq, ← List.append_assoc head, List.append_assoc (head ++ line)]
  exact byteLength_le_of_isPrefix (List.prefix_append _ _)

/-- The last line ends where the whole text ends. -/
theorem textEq_of_last
    (isLine : IsLine text (text.count '\n') head line rest) :
    text = head ++ line := by
  cases rest with
  | nil => rw [← List.append_nil line, ← isLine.textEq]
  | cons feed more =>
      obtain rfl : feed = '\n' := isLine.ends feed rfl
      have lines := congrArg (List.count '\n') isLine.textEq
      rw [List.count_append, List.count_append, List.count_cons_self, isLine.numbered] at lines
      omega

/-- A carriage return at the end of the whole text is one at the end of its last line. -/
theorem dropFinal_of_last
    (isLine : IsLine text (text.count '\n') head line rest) :
    dropFinal '\r' text = head ++ dropFinal '\r' line := by
  rw [isLine.textEq_of_last]
  by_cases nothing : line = []
  · rw [nothing, List.append_nil]
    have noReturn : dropFinal '\r' head = head := by
      apply dropFinal_of_getLast?_ne
      rcases lastLine_eq_nil_iff.1 isLine.starts with rfl | ⟨earlier, rfl⟩
      · exact nofun
      · simp
    exact noReturn.trans (List.append_nil head).symm
  · exact dropFinal_append '\r' head nothing

end IsLine

end Text

namespace LineIndex

theorem offset_of_count_lt
    {text : Text} {line : Nat} (absent : text.count '\n' < line) (column : Nat) :
    (ofText text).offset text ⟨line, column⟩ = text.byteLength := by
  rw [offset, line?_of_count_lt absent]

/-- Every position, whether it exists or not, has its offset between two characters. -/
theorem exists_offset_eq
    (text : Text) (position : Position) :
    ∃ before behind, text = before ++ behind ∧
      before.byteLength = (ofText text).offset text position :=
  Text.isBoundary_iff.1 (isBoundary_offset (ofText text) text position)

theorem offset_le_byteLength
    (text : Text) (position : Position) :
    (ofText text).offset text position ≤ text.byteLength :=
  Text.le_byteLength_of_isBoundary (isBoundary_offset (ofText text) text position)

/-- A later position has no lower offset, whether the two exist or not. -/
theorem offset_mono
    (text : Text) {position later : Position} (ordered : position.atOrBefore later = true) :
    (ofText text).offset text position ≤ (ofText text).offset text later := by
  obtain ⟨line, column⟩ := position
  obtain ⟨laterLine, laterColumn⟩ := later
  simp only [Position.atOrBefore, Bool.or_eq_true, Bool.and_eq_true, decide_eq_true_eq, beq_iff_eq]
    at ordered
  by_cases laterPresent : laterLine ≤ text.count '\n'
  · obtain ⟨laterHead, laterWhole, laterRest, isLater⟩ := Text.exists_isLine laterPresent
    rcases ordered with lower | ⟨rfl, notWider⟩
    · obtain ⟨head, whole, rest, isLine⟩ :=
        Text.exists_isLine (Nat.le_trans (Nat.le_of_lt lower) laterPresent)
      calc (ofText text).offset text ⟨line, column⟩
          ≤ (head ++ whole).byteLength := isLine.offset_le column
        _ ≤ laterHead.byteLength := isLine.byteLength_line_le_head isLater lower
        _ ≤ (ofText text).offset text ⟨laterLine, laterColumn⟩ := by
            rw [isLater.offset_eq]
            exact Nat.le_add_right _ _
    · rw [isLater.offset_eq, isLater.offset_eq]
      exact Nat.add_le_add_left (Text.columnOffset_mono _ notWider) _
  · rw [offset_of_count_lt (Nat.lt_of_not_le laterPresent)]
    exact offset_le_byteLength text ⟨line, column⟩

section RoundTrip

variable {text : Text} (fits : Text.FitsLines text)
include fits

/-- The offset of a position on a line that exists comes back from its own position. -/
theorem offset_position_offset_of_present
    {line : Nat} (present : line ≤ text.count '\n') (column : Nat) :
    let offset := (ofText text).offset text ⟨line, column⟩
    (ofText text).offset text ((ofText text).position text offset) = offset := by
  intro offset
  obtain ⟨head, whole, rest, isLine⟩ := Text.exists_isLine present
  obtain ⟨before, behind, found, columnEq⟩ :=
    Text.exists_firstAtColumn (Text.dropFinal '\r' whole) column
  have offsetEq : offset = (head ++ before).byteLength := by
    rw [Text.byteLength_append, ← columnEq]
    exact isLine.offset_eq column
  rw [offsetEq, isLine.position_of_text fits found.lineEq, isLine.offset_of_text found.lineEq]

/-- The widest column of the last line leads to the end of the text, less a carriage return there. -/
theorem offset_last_countLimit :
    (ofText text).offset text ⟨text.count '\n', Text.countLimit⟩ =
      (Text.dropFinal '\r' text).byteLength := by
  obtain ⟨head, line, rest, isLine⟩ := Text.exists_isLine (Nat.le_refl (text.count '\n'))
  have units : Text.unitLength (Text.dropFinal '\r' line) ≤ Text.countLimit := by
    have fewUnits := isLine.unitLength_lt fits
    unfold Text.countLimit
    omega
  rw [isLine.offset_eq, Text.columnOffset_of_unitLength_le units, isLine.dropFinal_of_last,
    Text.byteLength_append]

theorem offset_position_byteLength :
    (ofText text).offset text ((ofText text).position text text.byteLength) =
      (Text.dropFinal '\r' text).byteLength := by
  obtain ⟨head, line, rest, isLine⟩ := Text.exists_isLine (Nat.le_refl (text.count '\n'))
  have shorter : (Text.dropFinal '\r' text).byteLength ≤ text.byteLength :=
    Text.byteLength_le_of_isPrefix (Text.dropFinal_isPrefix '\r' text)
  have whole := isLine.dropFinal_of_last
  have textEq := isLine.textEq_of_last
  rw [← List.append_nil line] at isLine whole
  have positionEq := isLine.position_eq
  have offsetEq := offset_endPosition fits isLine
  rw [← textEq] at positionEq offsetEq
  rw [positionEq, offsetEq, ← whole]
  exact Nat.min_eq_right shorter

end RoundTrip

/-- An offset that comes from a position comes back from its own position, unless the line of the
position does not exist and the text ends with a carriage return. Past the last line every position
has the end of the text as its offset, which leads back to the end of the last line; the two ends
are the same exactly when the text does not end with a carriage return. -/
theorem clamping_is_stable_unless_final_return
    {text : Text} (fits : Text.FitsLines text) (position : Position) :
    let index := ofText text
    let offset := index.offset text position
    let endOfLast := index.offset text ⟨index.lineCount - 1, Text.countLimit⟩
    (index.offset text (index.position text offset) = offset ↔
      position.line < index.lineCount ∨ text.getLast? ≠ some '\r') ∧
      (index.lineCount ≤ position.line →
        offset = text.byteLength ∧
          endOfLast = (Text.dropFinal '\r' text).byteLength ∧
          index.offset text (index.position text offset) = endOfLast ∧
          (offset = endOfLast ↔ text.getLast? ≠ some '\r')) := by
  intro index offset endOfLast
  have countEq : index.lineCount = text.count '\n' + 1 := lineCount_ofText fits.lines
  have endEq : endOfLast = (Text.dropFinal '\r' text).byteLength := by
    rw [← offset_last_countLimit fits]
    simp only [endOfLast, countEq, Nat.add_sub_cancel, index]
  have pastEnd : index.lineCount ≤ position.line → offset = text.byteLength := fun past =>
    offset_of_count_lt (by omega) position.character
  have backEq : index.lineCount ≤ position.line →
      index.offset text (index.position text offset) = endOfLast := by
    intro past
    rw [pastEnd past, endEq]
    exact offset_position_byteLength fits
  have endsAgree : index.lineCount ≤ position.line →
      (offset = endOfLast ↔ text.getLast? ≠ some '\r') := by
    intro past
    rw [pastEnd past, endEq, eq_comm]
    exact Text.byteLength_dropFinal_eq_iff
  refine ⟨?_, fun past => ⟨pastEnd past, endEq, backEq past, endsAgree past⟩⟩
  by_cases past : index.lineCount ≤ position.line
  · rw [backEq past, eq_comm, endsAgree past]
    exact (or_iff_right (Nat.not_lt.2 past)).symm
  · have present : position.line ≤ text.count '\n' := by omega
    exact iff_of_true (offset_position_offset_of_present fits present position.character)
      (Or.inl (Nat.lt_of_not_le past))

theorem mixedWidths_clamping :
    let index := ofText mixedWidths
    let back (position : Position) :=
      index.offset mixedWidths (index.position mixedWidths (index.offset mixedWidths position))
    Text.FitsLines mixedWidths ∧ index.lineCount = 3 ∧ mixedWidths.getLast? = some '\r' ∧
      back ⟨2, 2⟩ = index.offset mixedWidths ⟨2, 2⟩ ∧
      back ⟨3, 0⟩ = index.offset mixedWidths ⟨2, Text.countLimit⟩ ∧
      back ⟨3, 0⟩ ≠ index.offset mixedWidths ⟨3, 0⟩ := by
  intro index back
  have fits : Text.FitsLines mixedWidths := Text.FitsPositions.fitsLines (by decide)
  have countEq : index.lineCount = 3 := by decide
  have returned : mixedWidths.getLast? = some '\r' := by decide
  obtain ⟨stable, -⟩ := clamping_is_stable_unless_final_return fits ⟨2, 2⟩
  obtain ⟨stablePast, past⟩ := clamping_is_stable_unless_final_return fits ⟨3, 0⟩
  obtain ⟨-, -, backEq, -⟩ := past (Nat.le_of_eq countEq)
  refine ⟨fits, countEq, returned, stable.2 (Or.inl (by decide)), backEq, ?_⟩
  intro same
  rcases stablePast.1 same with present | noReturn
  · exact absurd present (by decide)
  · exact noReturn returned

/-- With a carriage return at its end, a text has a position behind its last line whose offset leads
to a place that has another offset, and that is not where the widest column of the last line is. -/
theorem final_return_is_behind_last_line :
    let text : Text := ['a', 'b', '\r']
    let index := ofText text
    Text.FitsPositions text ∧ index.lineCount = 1 ∧
      index.offset text (index.position text (index.offset text ⟨1, 0⟩)) ≠
        index.offset text ⟨1, 0⟩ ∧
      index.offset text ⟨1, 0⟩ ≠ index.offset text ⟨0, Text.countLimit⟩ := by
  decide

end LineIndex

end CallHierarchy
