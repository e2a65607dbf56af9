import CallHierarchy.Proofs.Document.LinePlaces

/-!
A line index that is asked about another text than the one it was built from. The starts of its lines
may lie inside the characters of that text or past its end, and what stands between two of them need
not be a line. Still a line has bounds only where a slice of that text stands between them, every
position is taken to a boundary, and every offset to a line of the index, in a column that counts what
stands before it on that line, or zero where the start of the line is no place to count from.
-/

namespace CallHierarchy

namespace LineIndex

variable {index : LineIndex} {source : Text}

/-- The offsets between which the text of a line stands in `source`. They are missing when the line
is, or when nothing can be cut out between its start and the next one. -/
def bounds? (index : LineIndex) (source : Text) (line : Nat) : Option (Nat × Nat) := do
  let start ← index.lineStarts[line]?
  let whole ← source.slice? start (index.lineStarts[line + 1]?.getD source.byteLength)
  some (start, start + (withoutTerminator whole).byteLength)

theorem bounds?_eq_map
    (index : LineIndex) (source : Text) (line : Nat) :
    index.bounds? source line =
      (index.line? source line).map fun found => (found.1, found.1 + found.2.byteLength) := by
  rw [bounds?, line?]
  cases index.lineStarts[line]? with
  | none => rfl
  | some start =>
      dsimp only [Option.bind_eq_bind, Option.bind_some]
      cases source.slice? start (index.lineStarts[line + 1]?.getD source.byteLength) <;> rfl

theorem withoutTerminator_isPrefix (line : Text) : withoutTerminator line <+: line :=
  (Text.dropFinal_isPrefix '\r' _).trans (Text.dropFinal_isPrefix '\n' line)

/-- The text of a line stands between its bounds. -/
theorem slice?_of_line?
    {line start : Nat} {text : Text} (found : index.line? source line = some (start, text)) :
    source.slice? start (start + text.byteLength) = some text := by
  obtain ⟨first, _, rest⟩ := Option.bind_eq_some_iff.1 found
  obtain ⟨whole, sliced, isLine⟩ := Option.bind_eq_some_iff.1 rest
  cases isLine
  exact Text.slice?_of_isPrefix sliced (withoutTerminator_isPrefix whole)

theorem exists_slice?_of_bounds?
    {line start stop : Nat} (bounded : index.bounds? source line = some (start, stop)) :
    ∃ text, source.slice? start stop = some text ∧
      index.line? source line = some (start, text) := by
  rw [bounds?_eq_map] at bounded
  obtain ⟨⟨first, text⟩, found, isBounds⟩ := Option.map_eq_some_iff.1 bounded
  cases isBounds
  exact ⟨text, slice?_of_line? found, found⟩

theorem line?_of_bounds?_none
    {line : Nat} (unbounded : index.bounds? source line = none) :
    index.line? source line = none := by
  rwa [bounds?_eq_map, Option.map_eq_none_iff] at unbounded

/-- Whatever text the index was built from, an offset is a boundary of the source. -/
theorem isBoundary_offset
    (index : LineIndex) (source : Text) (position : Position) :
    source.isBoundary (index.offset source position) = true := by
  rw [offset]
  cases found : index.line? source position.line with
  | none => exact Text.isBoundary_iff.2 ⟨source, [], (List.append_nil source).symm, rfl⟩
  | some bounds =>
      obtain ⟨before, behind, atColumn, columnEq⟩ :=
        Text.exists_firstAtColumn bounds.2 position.character
      have sliced := Text.slice?_of_isPrefix (slice?_of_line? found) ⟨behind, atColumn.lineEq.symm⟩
      rw [← columnEq] at sliced
      exact (Text.isBoundary_of_slice? sliced).2

/-- The offset lies on the last line that starts at it or before it. -/
structure LiesOn (index : LineIndex) (offset line start : Nat) : Prop where
  starts : index.lineStarts[line]? = some start
  within : start ≤ offset
  beforeNext : ∀ next ∈ index.lineStarts[line + 1]?, offset < next

theorem LiesOn.line_lt
    {indexed : Text} (fewLines : indexed.count '\n' + 1 < 2 ^ 32) {offset line start : Nat}
    (liesOn : LiesOn (ofText indexed) offset line start) :
    line < (ofText indexed).lineCount := by
  obtain ⟨present, _⟩ := List.getElem?_eq_some_iff.1 liesOn.starts
  rwa [lineCount_ofText fewLines, ← length_lineStarts_ofText]

/-- Every offset lies on the last of the lines that start at it or before it. -/
theorem exists_liesOn
    (indexed : Text) (offset : Nat) :
    ∃ start, LiesOn (ofText indexed) offset
      (((ofText indexed).lineStarts.takeWhile (· ≤ offset)).length - 1) start := by
  let starts := (ofText indexed).lineStarts
  let early := starts.takeWhile (· ≤ offset)
  have startsEq : starts = early ++ starts.dropWhile (· ≤ offset) :=
    List.takeWhile_append_dropWhile.symm
  -- The first line starts at zero, so that one start at least is not above the offset.
  have earlyEq : early = 0 :: (startsAfter indexed 0).takeWhile (· ≤ offset) :=
    List.takeWhile_cons_of_pos (decide_eq_true (Nat.zero_le offset))
  have nonempty : 0 < early.length := by
    rw [earlyEq]
    exact Nat.succ_pos _
  have last : early.length - 1 < early.length := Nat.sub_lt nonempty Nat.one_pos
  have allEarly : ∀ start ∈ early, start ≤ offset := by
    intro start member
    exact of_decide_eq_true (List.mem_takeWhile_imp (p := (· ≤ offset)) member)
  refine ⟨early[early.length - 1], ?_, allEarly _ (List.getElem_mem last), ?_⟩
  · change starts[early.length - 1]? = _
    rw [startsEq, List.getElem?_append_left last, List.getElem?_eq_getElem last]
  · intro next isNext
    change next ∈ starts[early.length - 1 + 1]? at isNext
    rw [Nat.sub_add_cancel nonempty, startsEq, List.getElem?_append_right (Nat.le_refl _),
      Nat.sub_self, ← List.head?_eq_getElem?] at isNext
    have stopped := List.head?_dropWhile_not (· ≤ offset) starts
    rw [Option.mem_def.1 isNext] at stopped
    simpa using stopped

/-- The position of an offset is on the line on which the boundary below it lies. -/
theorem exists_position_eq_of_liesOn
    {indexed : Text} (fewLines : indexed.count '\n' + 1 < 2 ^ 32) (source : Text) (offset : Nat) :
    ∃ line start, LiesOn (ofText indexed) (source.floorBoundary offset) line start ∧
      (ofText indexed).position source offset =
        ⟨line, ((source.slice? start (source.floorBoundary offset)).getD []).columnCount⟩ := by
  obtain ⟨start, liesOn⟩ := exists_liesOn indexed (source.floorBoundary offset)
  refine ⟨_, start, liesOn, ?_⟩
  have present := liesOn.line_lt fewLines
  rw [lineCount_ofText fewLines] at present
  rw [position, liesOn.starts, Text.saturate_of_lt (Nat.lt_trans present fewLines)]
  rfl

theorem columnCount_slice?
    (fewUnits : source.unitLength < 2 ^ 32) {start stop : Nat} {between : Text}
    (sliced : source.slice? start stop = some between) :
    ((source.slice? start stop).getD []).columnCount = between.unitLength := by
  rw [sliced]
  exact Text.saturate_of_lt (Nat.lt_of_le_of_lt (Text.unitLength_le_of_slice? sliced) fewUnits)

theorem slice?_of_not_isBoundary
    {start : Nat} (inside : source.isBoundary start = false) (stop : Nat) :
    source.slice? start stop = none := by
  cases sliced : source.slice? start stop with
  | none => rfl
  | some part =>
      rw [(Text.isBoundary_of_slice? sliced).1] at inside
      cases inside

/-- Whatever text an index was built from, the queries about `source` stay in it: an offset is a
boundary of it, the text of a line is the slice between the bounds of the line, without which there is
none, and the search for a boundary below an offset succeeds. The offset then has a position on the
last line that starts there or before, with the units from that start on as its column if the start is
a boundary of `source`, and column zero if not. -/
theorem queries_of_other_text_stay_in_it
    {indexed source : Text} (fewLines : indexed.count '\n' + 1 < 2 ^ 32)
    (fewUnits : source.unitLength < 2 ^ 32) :
    let index := ofText indexed
    (∀ position, source.isBoundary (index.offset source position) = true ∧
        index.offset source position ≤ source.byteLength) ∧
      (∀ line start stop, index.bounds? source line = some (start, stop) →
        source.isBoundary start = true ∧ source.isBoundary stop = true ∧
          ∃ text, source.slice? start stop = some text ∧
            index.lineText? source line = some text ∧
            ∀ column, index.offset source ⟨line, column⟩ = start + text.columnOffset column) ∧
      (∀ line, index.bounds? source line = none →
        index.lineText? source line = none ∧
          ∀ column, index.offset source ⟨line, column⟩ = source.byteLength) ∧
      ∀ offset, ∃ snapped start,
        source.boundaryFrom? (min offset source.byteLength) = some snapped ∧
          (index.position source offset).line < index.lineCount ∧
          LiesOn index snapped (index.position source offset).line start ∧
          (source.isBoundary start = true → ∃ between,
            source.slice? start snapped = some between ∧
              (index.position source offset).character = between.unitLength) ∧
          (source.isBoundary start = false → (index.position source offset).character = 0) := by
  intro index
  refine ⟨?_, ?_, ?_, ?_⟩
  · intro position
    have boundary := isBoundary_offset index source position
    exact ⟨boundary, Text.le_byteLength_of_isBoundary boundary⟩
  · intro line start stop bounded
    obtain ⟨text, sliced, found⟩ := exists_slice?_of_bounds? bounded
    obtain ⟨startBoundary, stopBoundary⟩ := Text.isBoundary_of_slice? sliced
    refine ⟨startBoundary, stopBoundary, text, sliced, ?_, ?_⟩
    · rw [lineText?, found, Option.map_some]
    · intro column
      rw [offset, found]
  · intro line unbounded
    have absent := line?_of_bounds?_none unbounded
    refine ⟨by rw [lineText?, absent, Option.map_none], ?_⟩
    intro column
    rw [offset, absent]
  · intro offset
    obtain ⟨line, start, liesOn, positionEq⟩ :=
      exists_position_eq_of_liesOn fewLines source offset
    have snapsTo : source.boundaryFrom? (min offset source.byteLength) =
        some (source.floorBoundary offset) := by
      rw [Text.boundaryFrom?_eq, Text.floorBoundary_min_byteLength]
    refine ⟨source.floorBoundary offset, start, snapsTo, ?_⟩
    rw [positionEq]
    refine ⟨liesOn.line_lt fewLines, liesOn, ?_, ?_⟩
    · intro startBoundary
      obtain ⟨between, sliced⟩ := Text.exists_slice? liesOn.within startBoundary
        (Text.isGreatest_floorBoundary source offset).1.1
      exact ⟨between, sliced, columnCount_slice? fewUnits sliced⟩
    · intro inside
      rw [slice?_of_not_isBoundary inside]
      rfl

/-- A text whose lines start at 0, 2, 5, 9 and 14. -/
def outdatedText : Text :=
  "a\nbc\ndef\nghij\n".toList

/-- A text of twelve bytes, whose characters start at 0, 2, 5, 6, 7 and 11. -/
def shorterText : Text :=
  "é€x\n😀y".toList

/-- The second line of the outdated text is cut out of the shorter one, the third would end and the
fourth starts inside a character, and the last one starts past the end. -/
theorem shorterText_queries_stay_in_it :
    let index := ofText outdatedText
    outdatedText.count '\n' + 1 < 2 ^ 32 ∧ Text.unitLength shorterText < 2 ^ 32 ∧
      Text.isBoundary shorterText (index.offset shorterText ⟨1, 7⟩) = true ∧
      index.bounds? shorterText 1 = some (2, 5) ∧
      (∃ text, Text.slice? shorterText 2 5 = some text ∧
        index.lineText? shorterText 1 = some text) ∧
      index.bounds? shorterText 2 = none ∧ index.lineText? shorterText 2 = none ∧
      index.bounds? shorterText 4 = none ∧ index.offset shorterText ⟨4, 0⟩ = 12 ∧
      index.position shorterText 8 = ⟨2, 2⟩ ∧ Text.isBoundary shorterText 5 = true ∧
      (∃ between, Text.slice? shorterText 5 7 = some between ∧ 2 = Text.unitLength between) ∧
      Text.isBoundary shorterText 9 = false ∧ index.position shorterText 20 = ⟨3, 0⟩ := by
  intro index
  have fewLines : outdatedText.count '\n' + 1 < 2 ^ 32 := by decide
  have fewUnits : Text.unitLength shorterText < 2 ^ 32 := by decide
  have secondBounds : index.bounds? shorterText 1 = some (2, 5) := by decide
  have thirdBounds : index.bounds? shorterText 2 = none := by decide
  have lastBounds : index.bounds? shorterText 4 = none := by decide
  have thirdStart : Text.isBoundary shorterText 5 = true := by decide
  have fourthStart : Text.isBoundary shorterText 9 = false := by decide
  have positionEq : index.position shorterText 8 = ⟨2, 2⟩ := by decide
  have lastLine : (index.position shorterText 20).line = 3 := by decide
  obtain ⟨offsets, bounded, unbounded, positions⟩ :=
    queries_of_other_text_stay_in_it fewLines fewUnits
  obtain ⟨-, -, text, sliced, textEq, -⟩ := bounded 1 2 5 secondBounds
  obtain ⟨snapped, start, found, -, liesOn, counted, -⟩ := positions 8
  obtain ⟨last, lastStart, lastFound, -, lastLiesOn, -, zero⟩ := positions 20
  obtain rfl : 7 = snapped := Option.some.inj found
  rw [positionEq] at liesOn counted
  obtain rfl : 5 = start := Option.some.inj liesOn.starts
  obtain ⟨between, betweenSliced, columnEq⟩ := counted thirdStart
  rw [lastLine] at lastLiesOn
  obtain rfl : 9 = lastStart := Option.some.inj lastLiesOn.starts
  refine ⟨fewLines, fewUnits, (offsets ⟨1, 7⟩).1, secondBounds, ⟨text, sliced, textEq⟩,
    thirdBounds, (unbounded 2 thirdBounds).1, lastBounds, (unbounded 4 lastBounds).2 0, positionEq,
    thirdStart, ⟨between, betweenSliced, columnEq⟩, fourthStart, ?_⟩
  rw [Position.mk.injEq]
  exact ⟨lastLine, zero fourthStart⟩

end LineIndex

end CallHierarchy
