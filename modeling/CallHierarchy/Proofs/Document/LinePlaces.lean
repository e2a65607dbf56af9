import CallHierarchy.Proofs.Document.Lines

/-!
Lines as stretches of a text. Every place in a text lies on one line, and a line stands between what
comes before its start and what comes from its line feed on. From there its text, the offsets of its
columns and the positions of its places are read off; a line stays a line when whole lines are put
before the text or more text behind it. Two places, or two line numbers, cut a stretch out of it.
-/

namespace CallHierarchy

namespace Text

theorem dropFinal_isPrefix
    (character : Char) (text : Text) :
    dropFinal character text <+: text := by
  rw [dropFinal]
  split
  · exact List.dropLast_prefix text
  · exact List.prefix_refl text

/-- The line with a number, up to its line feed: it stands behind `head`, which is empty or ends with
a line feed, and before `rest`, which is empty or starts with one. -/
structure IsLine (text : Text) (number : Nat) (head line rest : Text) : Prop where
  textEq : text = head ++ (line ++ rest)
  numbered : head.count '\n' = number
  starts : lastLine head = []
  noFeed : '\n' ∉ line
  ends : ∀ character ∈ rest.head?, character = '\n'

theorem lastLine_with_feed
    (head line : Text) :
    lastLine (head ++ (line ++ ['\n'])) = [] :=
  lastLine_eq_nil_iff.2 (Or.inr ⟨head ++ line, (List.append_assoc _ _ _).symm⟩)

theorem exists_isLine
    {text : Text} {number : Nat} (present : number ≤ text.count '\n') :
    ∃ head line rest, IsLine text number head line rest := by
  obtain ⟨head, behind, textEq, starts, numbered⟩ := exists_line_start present
  obtain ⟨line, rest, behindEq, noFeed, ends⟩ := exists_line_end behind
  exact ⟨head, line, rest, by rw [textEq, behindEq], numbered, starts, noFeed, ends⟩

/-- Every place in a text lies on a line, somewhere from its start to its line feed. -/
theorem exists_isLine_around
    (before behind : Text) :
    ∃ number head front back rest,
      IsLine (before ++ behind) number head (front ++ back) rest ∧ before = head ++ front ∧
        behind = back ++ rest := by
  obtain ⟨head, beforeEq, starts, frontNoFeed⟩ := exists_append_lastLine before
  obtain ⟨back, rest, behindEq, backNoFeed, ends⟩ := exists_line_end behind
  refine ⟨head.count '\n', head, lastLine before, back, rest, ?_, beforeEq, behindEq⟩
  exact
    { textEq := by rw [List.append_assoc, ← behindEq, ← List.append_assoc, ← beforeEq]
      numbered := rfl
      starts := starts
      noFeed := by simp [frontNoFeed, backNoFeed]
      ends := ends }

namespace IsLine

variable {text : Text} {number : Nat} {head line front back rest : Text}

theorem number_le
    (isLine : IsLine text number head line rest) :
    number ≤ text.count '\n' := by
  rw [isLine.textEq, List.count_append, isLine.numbered]
  exact Nat.le_add_right _ _

theorem line?_eq
    (isLine : IsLine text number head line rest) :
    (LineIndex.ofText text).line? text number =
      some (head.byteLength, dropFinal '\r' line) := by
  rw [isLine.textEq, ← isLine.numbered]
  exact LineIndex.line?_ofText_append isLine.starts isLine.noFeed isLine.ends

theorem lineText?_eq
    (isLine : IsLine text number head line rest) :
    (LineIndex.ofText text).lineText? text number = some (dropFinal '\r' line) := by
  rw [LineIndex.lineText?, isLine.line?_eq, Option.map_some]

theorem offset_eq
    (isLine : IsLine text number head line rest) (column : Nat) :
    (LineIndex.ofText text).offset text ⟨number, column⟩ =
      head.byteLength + (dropFinal '\r' line).columnOffset column := by
  rw [LineIndex.offset, isLine.line?_eq]

/-- A column between two characters of the text of a line has the offset of that place. -/
theorem offset_of_text
    (isLine : IsLine text number head line rest) (lineText : dropFinal '\r' line = front ++ back) :
    (LineIndex.ofText text).offset text ⟨number, unitLength front⟩ =
      (head ++ front).byteLength := by
  rw [isLine.offset_eq, lineText, LineIndex.columnOffset_append, byteLength_append]

theorem endPosition_eq
    (isLine : IsLine text number head (front ++ back) rest) :
    endPosition (head ++ front) = ⟨saturate number, columnCount front⟩ := by
  have frontNoFeed : '\n' ∉ front := fun member =>
    isLine.noFeed (List.mem_append_left back member)
  rw [endPosition, lastLine_append_of_not_mem head frontNoFeed, isLine.starts, List.nil_append,
    List.count_append, List.count_eq_zero.2 frontNoFeed, Nat.add_zero, isLine.numbered]

/-- A place on a line has the position where the text before it ends. -/
theorem position_eq
    (isLine : IsLine text number head (front ++ back) rest) :
    (LineIndex.ofText text).position text (head ++ front).byteLength =
      endPosition (head ++ front) := by
  have textEq : text = (head ++ front) ++ (back ++ rest) := by
    rw [isLine.textEq]
    simp only [List.append_assoc]
  rw [textEq, LineIndex.position_ofText_append]

theorem count_with_feed
    (isLine : IsLine text number head line rest) :
    (head ++ (line ++ ['\n'])).count '\n' = number + 1 := by
  rw [List.count_append, List.count_append, isLine.numbered, List.count_eq_zero.2 isLine.noFeed,
    List.count_singleton_self, Nat.zero_add]

/-- A line that is not the last one ends with a line feed. -/
theorem exists_feed
    (isLine : IsLine text number head line rest) (followed : number < text.count '\n') :
    ∃ more, rest = '\n' :: more := by
  cases rest with
  | nil =>
      rw [isLine.textEq, List.append_nil, List.count_append, isLine.numbered,
        List.count_eq_zero.2 isLine.noFeed] at followed
      exact absurd followed (Nat.lt_irrefl _)
  | cons feed more =>
      obtain rfl : feed = '\n' := isLine.ends feed rfl
      exact ⟨more, rfl⟩

/-- A line stays as it is when more text follows, unless it goes on there. -/
theorem append
    (isLine : IsLine text number head line rest) (later : Text)
    (ends : ∀ character ∈ (rest ++ later).head?, character = '\n') :
    IsLine (text ++ later) number head line (rest ++ later) where
  textEq := by
    rw [isLine.textEq]
    simp only [List.append_assoc]
  numbered := isLine.numbered
  starts := isLine.starts
  noFeed := isLine.noFeed
  ends := ends

/-- Whole lines in front of a text only change the numbers of its lines. -/
theorem prepend
    (isLine : IsLine text number head line rest) {earlier : Text}
    (wholeLines : lastLine earlier = []) :
    IsLine (earlier ++ text) (earlier.count '\n' + number) (earlier ++ head) line rest where
  textEq := by rw [isLine.textEq, List.append_assoc]
  numbered := by rw [List.count_append, isLine.numbered]
  starts := by
    rcases lastLine_eq_nil_iff.1 isLine.starts with rfl | ⟨before, rfl⟩
    · rwa [List.append_nil]
    · exact lastLine_eq_nil_iff.2 (Or.inr ⟨earlier ++ before, (List.append_assoc _ _ _).symm⟩)
  noFeed := isLine.noFeed
  ends := isLine.ends

end IsLine

theorem exists_isLine_of_lineText?
    {text lineText : Text} {number : Nat}
    (found : (LineIndex.ofText text).lineText? text number = some lineText) :
    ∃ head line rest, IsLine text number head line rest ∧ dropFinal '\r' line = lineText := by
  have present : number ≤ text.count '\n' := by
    by_contra absent
    rw [LineIndex.lineText?, LineIndex.line?_of_count_lt (by omega)] at found
    cases found
  obtain ⟨head, line, rest, isLine⟩ := exists_isLine present
  rw [isLine.lineText?_eq, Option.some_inj] at found
  exact ⟨head, line, rest, isLine, found⟩

/-- Fewer than `2 ^ 32` lines, and fewer than `2 ^ 32` units in the text of each of them. -/
structure FitsLines (text : Text) : Prop where
  lines : text.count '\n' + 1 < 2 ^ 32
  units : ∀ number line, (LineIndex.ofText text).lineText? text number = some line →
    unitLength line < 2 ^ 32

theorem FitsPositions.fitsLines
    {text : Text} (fits : FitsPositions text) :
    FitsLines text := by
  refine ⟨fits.lines, ?_⟩
  intro number lineText found
  obtain ⟨head, line, rest, isLine, lineEq⟩ := exists_isLine_of_lineText? found
  have shorter := unitLength_le_of_isPrefix (dropFinal_isPrefix '\r' line)
  have units := fits.units
  rw [isLine.textEq, unitLength_append, unitLength_append] at units
  rw [← lineEq]
  omega

theorem IsLine.saturate_number
    {text : Text} {number : Nat} {head line rest : Text} (fits : FitsLines text)
    (isLine : IsLine text number head line rest) :
    saturate number = number := by
  have within := isLine.number_le
  have lines := fits.lines
  exact saturate_of_lt (by omega)

theorem IsLine.unitLength_lt
    {text : Text} {number : Nat} {head line rest : Text} (fits : FitsLines text)
    (isLine : IsLine text number head line rest) :
    unitLength (dropFinal '\r' line) < 2 ^ 32 :=
  fits.units number _ isLine.lineText?_eq

/-- A place between two characters of the text of a line has the units before it as its column. -/
theorem IsLine.position_of_text
    {text : Text} {number : Nat} {head line rest front back : Text} (fits : FitsLines text)
    (isLine : IsLine text number head line rest) (lineText : dropFinal '\r' line = front ++ back) :
    (LineIndex.ofText text).position text (head ++ front).byteLength =
      ⟨number, unitLength front⟩ := by
  have units := isLine.unitLength_lt fits
  rw [lineText, unitLength_append] at units
  have frontColumns : columnCount front = unitLength front := saturate_of_lt (by omega)
  obtain ⟨returned, lineEq⟩ := dropFinal_isPrefix '\r' line
  rw [lineText, List.append_assoc] at lineEq
  rw [← lineEq] at isLine
  rw [isLine.position_eq, isLine.endPosition_eq, isLine.saturate_number fits, frontColumns]

end Text

theorem Snapshot.textIn_of_offsets
    {document : Snapshot} {range : Range} {before middle behind : Text}
    (textEq : document.text = before ++ (middle ++ behind))
    (start : document.offsetAt range.start = before.byteLength)
    (finish : document.offsetAt range.finish = (before ++ middle).byteLength) :
    document.textIn range = middle := by
  rw [textIn, start, finish, Text.byteLength_append, Nat.max_eq_left (Nat.le_add_right _ _),
    textEq, Text.slice?_append, Option.getD_some]

/-- What stands between two places, each given by its line and the units before it on that line. -/
theorem Snapshot.textIn_between
    {document : Snapshot} {low high : Nat} {head line rest front back : Text}
    {laterHead laterLine laterRest laterFront laterBack middle : Text}
    (start : Text.IsLine document.text low head line rest)
    (startText : Text.dropFinal '\r' line = front ++ back)
    (finish : Text.IsLine document.text high laterHead laterLine laterRest)
    (finishText : Text.dropFinal '\r' laterLine = laterFront ++ laterBack)
    (between : laterHead ++ laterFront = (head ++ front) ++ middle) :
    document.textIn ⟨⟨low, Text.unitLength front⟩, ⟨high, Text.unitLength laterFront⟩⟩ =
      middle := by
  obtain ⟨returned, lineEq⟩ := Text.dropFinal_isPrefix '\r' laterLine
  have textEq : document.text =
      (head ++ front) ++ (middle ++ (laterBack ++ (returned ++ laterRest))) := by
    rw [finish.textEq, ← lineEq, finishText, ← List.append_assoc _ middle, ← between]
    simp only [List.append_assoc]
  have startOffset : document.offsetAt ⟨low, Text.unitLength front⟩ = (head ++ front).byteLength :=
    start.offset_of_text startText
  have finishOffset : document.offsetAt ⟨high, Text.unitLength laterFront⟩ =
      ((head ++ front) ++ middle).byteLength := by
    rw [← between]
    exact finish.offset_of_text finishText
  exact textIn_of_offsets textEq startOffset finishOffset

/-- A text in three parts, the middle one made of the lines from `low` up to but not including
`high`. -/
structure LinesCut (text : Text) (low high : Nat) (head body tail : Text) : Prop where
  textEq : text = head ++ (body ++ tail)
  headStart : Text.lastLine head = []
  bodyStart : Text.lastLine (head ++ body) = []
  headCount : head.count '\n' = low
  bodyCount : (head ++ body).count '\n' = high

/-- Lines that exist can be cut out of a text. -/
theorem exists_linesCut
    {text : Text} {low high : Nat}
    (ordered : low ≤ high) (present : high ≤ text.count '\n') :
    ∃ head body tail, LinesCut text low high head body tail := by
  obtain ⟨head, behind, headEq, headStart, headCount⟩ :=
    Text.exists_line_start (Nat.le_trans ordered present)
  obtain ⟨later, tail, laterEq, laterStart, laterCount⟩ := Text.exists_line_start present
  obtain ⟨body, bodyEq, behindEq⟩ :=
    Text.exists_append_of_count_le (headEq.symm.trans laterEq) headStart (by omega)
  refine ⟨head, body, tail, ?_⟩
  exact
    { textEq := by rw [headEq, behindEq]
      headStart := headStart
      bodyStart := bodyEq ▸ laterStart
      headCount := headCount
      bodyCount := bodyEq ▸ laterCount }

namespace LinesCut

variable {document : Snapshot} {low high : Nat} {head body tail : Text}

theorem offsetAt_low
    (cut : LinesCut document.text low high head body tail) :
    document.offsetAt ⟨low, 0⟩ = Text.byteLength head := by
  have offsetEq := LineIndex.offset_ofText_append (body ++ tail) cut.headStart
  rwa [cut.headCount, ← cut.textEq] at offsetEq

theorem offsetAt_high
    (cut : LinesCut document.text low high head body tail) :
    document.offsetAt ⟨high, 0⟩ = Text.byteLength head + Text.byteLength body := by
  have offsetEq := LineIndex.offset_ofText_append tail cut.bodyStart
  rwa [cut.bodyCount, List.append_assoc, ← cut.textEq, Text.byteLength_append] at offsetEq

theorem textIn_eq
    (cut : LinesCut document.text low high head body tail) :
    document.textIn ⟨⟨low, 0⟩, ⟨high, 0⟩⟩ = body := by
  apply Snapshot.textIn_of_offsets cut.textEq cut.offsetAt_low
  rw [cut.offsetAt_high, Text.byteLength_append]

theorem high_eq
    {text : Text} (cut : LinesCut text low high head body tail) :
    high = low + body.count '\n' := by
  rw [← cut.bodyCount, List.count_append, cut.headCount]

theorem lastLine_body
    {text : Text} (cut : LinesCut text low high head body tail) :
    Text.lastLine body = [] := by
  obtain ⟨earlier, bodyEq, _, noFeed⟩ := Text.exists_append_lastLine body
  have wholeLines := cut.bodyStart
  rw [bodyEq, ← List.append_assoc, Text.lastLine_append_of_not_mem _ noFeed,
    List.append_eq_nil_iff] at wholeLines
  exact wholeLines.2

/-- Lines that are cut out are lines of the whole text, but for the empty one behind the last line
feed. -/
theorem lineText?_body
    {text : Text} (cut : LinesCut text low high head body tail) {number : Nat} {lineText : Text}
    (found : (LineIndex.ofText body).lineText? body number = some lineText) :
    lineText = [] ∨ low + number < high ∧
      (LineIndex.ofText text).lineText? text (low + number) = some lineText := by
  obtain ⟨before, line, behind, isLine, rfl⟩ := Text.exists_isLine_of_lineText? found
  cases behind with
  | nil =>
      have lastEq := cut.lastLine_body
      rw [isLine.textEq, List.append_nil, Text.lastLine_append_of_not_mem _ isLine.noFeed,
        isLine.starts, List.nil_append] at lastEq
      exact Or.inl (by rw [lastEq]; rfl)
  | cons feed more =>
      obtain rfl : feed = '\n' := isLine.ends feed rfl
      have within : number < body.count '\n' := by
        rw [isLine.textEq, List.count_append, List.count_append, List.count_cons_self,
          isLine.numbered]
        omega
      have inText := (isLine.append tail (by simp)).prepend cut.headStart
      rw [← cut.textEq, cut.headCount] at inText
      have highEq := cut.high_eq
      exact Or.inr ⟨by omega, inText.lineText?_eq⟩

end LinesCut

end CallHierarchy
