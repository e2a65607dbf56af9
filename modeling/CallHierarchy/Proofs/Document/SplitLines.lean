import CallHierarchy.Proofs.Document.LinePlaces

/-!
The lines of a text as its pieces between line feeds. The text of a line is the piece with its
number, less one carriage return at its end, so there are as many lines as pieces and reading them in
order skips none and stops at none. The starts of the lines are boundaries that increase, and what
stands from each start to the next one makes up the whole text.
-/

namespace CallHierarchy

namespace Text

theorem length_splitOn_feed (text : Text) :
    (List.splitOn '\n' text).length = text.count '\n' + 1 := by
  induction text with
  | nil => rfl
  | cons first rest inductionHypothesis =>
      rw [List.splitOn_cons_eq_if_modifyHead]
      by_cases isFeed : first = '\n'
      · simp [isFeed, inductionHypothesis]
      · simp [isFeed, inductionHypothesis]

/-- A line is the piece with its number between line feeds. -/
theorem IsLine.getElem?_splitOn
    {text : Text} {number : Nat} {head line rest : Text}
    (isLine : IsLine text number head line rest) :
    (List.splitOn '\n' text)[number]? = some line := by
  have lineFirst : (List.splitOn '\n' (line ++ rest))[0]? = some line := by
    cases rest with
    | nil =>
        rw [List.append_nil, List.splitOn_eq_singleton isLine.noFeed]
        rfl
    | cons feed more =>
        obtain rfl : feed = '\n' := isLine.ends feed rfl
        rw [List.splitOn_append_cons_self_of_not_mem isLine.noFeed]
        rfl
  have numbered := isLine.numbered
  rw [isLine.textEq]
  rcases lastLine_eq_nil_iff.1 isLine.starts with rfl | ⟨earlier, rfl⟩
  · rw [List.count_nil] at numbered
    rwa [List.nil_append, ← numbered]
  · have numberEq : (List.splitOn '\n' earlier).length = number := by
      rw [length_splitOn_feed, ← numbered, List.count_append, List.count_singleton_self]
    rw [List.append_assoc, List.singleton_append, List.splitOn_append_cons_self, ← numberEq,
      List.getElem?_append_right (Nat.le_refl _), Nat.sub_self]
    exact lineFirst

/-- The pieces into which a text is cut at the offsets `starts`: each reaches from its start to the
next one, and the last one to the end of the text. -/
structure CutsInto (text : Text) (starts : List Nat) (pieces : List Text) : Prop where
  length_eq : pieces.length = starts.length
  slices : ∀ number start, starts[number]? = some start →
    ∃ piece, pieces[number]? = some piece ∧
      text.slice? start (starts[number + 1]?.getD text.byteLength) = some piece

theorem cutsInto_singleton
    (before behind : Text) :
    CutsInto (before ++ behind) [before.byteLength] [behind] where
  length_eq := rfl
  slices := by
    intro number start isStart
    cases number with
    | zero =>
        obtain rfl : before.byteLength = start := Option.some.inj isStart
        have toEnd := slice?_append before behind []
        rw [List.append_nil, ← byteLength_append] at toEnd
        exact ⟨behind, rfl, toEnd⟩
    | succ number => cases isStart

theorem CutsInto.cons
    {before middle behind : Text} {starts : List Nat} {pieces : List Text}
    (cut : CutsInto (before ++ (middle ++ behind))
      ((before.byteLength + middle.byteLength) :: starts) pieces) :
    CutsInto (before ++ (middle ++ behind))
      (before.byteLength :: (before.byteLength + middle.byteLength) :: starts)
      (middle :: pieces) where
  length_eq := congrArg (· + 1) cut.length_eq
  slices := by
    intro number start isStart
    cases number with
    | zero =>
        obtain rfl : before.byteLength = start := Option.some.inj isStart
        exact ⟨middle, rfl, slice?_append before middle behind⟩
    | succ number => exact cut.slices number start isStart

/-- At increasing boundaries a text is cut into pieces that make up what stands behind the first
one. -/
theorem exists_cutsInto
    {text before behind : Text} {later : List Nat} (textEq : text = before ++ behind)
    (increasing : (before.byteLength :: later).Pairwise (· < ·))
    (boundaries : ∀ start ∈ later, text.isBoundary start = true) :
    ∃ pieces, CutsInto text (before.byteLength :: later) pieces ∧ pieces.flatten = behind := by
  induction later generalizing before behind with
  | nil =>
      rw [textEq]
      exact ⟨[behind], cutsInto_singleton before behind, List.flatten_singleton⟩
  | cons next rest inductionHypothesis =>
      obtain ⟨further, restIncreasing⟩ := List.pairwise_cons.1 increasing
      obtain ⟨nextBoundary, restBoundaries⟩ := List.forall_mem_cons.1 boundaries
      obtain ⟨longer, tail, longerEq, rfl⟩ := isBoundary_iff.1 nextBoundary
      obtain ⟨middle, rfl, rfl⟩ := exists_append_of_byteLength_le (textEq.symm.trans longerEq)
        (Nat.le_of_lt (further _ List.mem_cons_self))
      obtain ⟨pieces, cut, joined⟩ := inductionHypothesis longerEq restIncreasing restBoundaries
      rw [textEq, byteLength_append] at cut ⊢
      exact ⟨middle :: pieces, cut.cons, by rw [List.flatten_cons, joined]⟩

end Text

namespace LineIndex

theorem lineText?_eq_splitOn
    (text : Text) (number : Nat) :
    (ofText text).lineText? text number =
      (List.splitOn '\n' text)[number]?.map (Text.dropFinal '\r') := by
  by_cases present : number ≤ text.count '\n'
  · obtain ⟨head, line, rest, isLine⟩ := Text.exists_isLine present
    rw [isLine.lineText?_eq, isLine.getElem?_splitOn, Option.map_some]
  · have noPiece : (List.splitOn '\n' text)[number]? = none := by
      apply List.getElem?_eq_none
      rw [Text.length_splitOn_feed]
      omega
    rw [lineText?, line?_of_count_lt (Nat.lt_of_not_le present), noPiece]
    rfl

theorem lineTexts_eq_splitOn
    {text : Text} (few : text.count '\n' + 1 < 2 ^ 32) :
    (ofText text).lineTexts text =
      (List.splitOn '\n' text).map (Text.dropFinal '\r') := by
  apply List.ext_getElem?
  intro number
  rw [getElem?_lineTexts_ofText few, lineText?_eq_splitOn, List.getElem?_map]

theorem pairwise_startsAfter
    (text : Text) (offset : Nat) :
    (startsAfter text offset).Pairwise (· < ·) := by
  induction text generalizing offset with
  | nil => exact List.Pairwise.nil
  | cons first rest inductionHypothesis =>
      by_cases isFeed : first = '\n'
      · rw [startsAfter, if_pos isFeed]
        refine List.pairwise_cons.2 ⟨?_, inductionHypothesis _⟩
        intro start member
        exact (bounds_of_mem_startsAfter member).1
      · rw [startsAfter, if_neg isFeed]
        exact inductionHypothesis _

theorem pairwise_lineStarts_ofText (text : Text) :
    (ofText text).lineStarts.Pairwise (· < ·) := by
  refine List.pairwise_cons.2 ⟨?_, pairwise_startsAfter text 0⟩
  intro start member
  exact (bounds_of_mem_startsAfter member).1

theorem isBoundary_of_mem_lineStarts
    {text : Text} {start : Nat} (member : start ∈ (ofText text).lineStarts) :
    text.isBoundary start = true := by
  obtain ⟨number, within, rfl⟩ := List.getElem_of_mem member
  have present : number ≤ text.count '\n' := by
    rw [length_lineStarts_ofText] at within
    exact Nat.le_of_lt_succ within
  obtain ⟨before, behind, textEq, atStart, rfl⟩ := Text.exists_line_start present
  have startEq := getElem?_lineStarts_ofText behind atStart
  rw [← textEq, List.getElem?_eq_getElem within, Option.some_inj] at startEq
  exact Text.isBoundary_iff.2 ⟨before, behind, textEq, startEq.symm⟩

/-- The text of each line is the piece with its number between two line feeds, less one carriage
return at its end, and there are no other lines; the starts of the lines are increasing boundaries,
at which the text is cut into pieces that make it up. -/
theorem lines_are_pieces_between_feeds
    {text : Text} (few : text.count '\n' + 1 < 2 ^ 32) :
    let index := ofText text
    index.lineCount = text.count '\n' + 1 ∧
      (∀ number, number < index.lineCount →
        ∃ piece, (List.splitOn '\n' text)[number]? = some piece ∧
          index.lineText? text number = some (Text.dropFinal '\r' piece)) ∧
      (∀ number, index.lineCount ≤ number → index.lineText? text number = none) ∧
      index.lineTexts text = (List.splitOn '\n' text).map (Text.dropFinal '\r') ∧
      index.lineStarts.Pairwise (· < ·) ∧
      (∀ start ∈ index.lineStarts, text.isBoundary start = true) ∧
      ∃ pieces, Text.CutsInto text index.lineStarts pieces ∧ pieces.flatten = text := by
  intro index
  have countEq : index.lineCount = text.count '\n' + 1 := lineCount_ofText few
  refine ⟨countEq, ?_, ?_, lineTexts_eq_splitOn few, pairwise_lineStarts_ofText text,
    fun start => isBoundary_of_mem_lineStarts, ?_⟩
  · intro number within
    obtain ⟨head, line, rest, isLine⟩ :=
      Text.exists_isLine (Nat.le_of_lt_succ (countEq ▸ within))
    exact ⟨line, isLine.getElem?_splitOn, isLine.lineText?_eq⟩
  · intro number past
    rw [lineText?, line?_of_count_lt (by omega), Option.map_none]
  · exact Text.exists_cutsInto (List.nil_append text).symm
      (pairwise_lineStarts_ofText text)
      fun start member => isBoundary_of_mem_lineStarts (List.mem_cons_of_mem 0 member)

/-- A text with empty lines, two carriage returns before a line feed, and one at its end. -/
def stackedReturns : Text :=
  "é\r\r\n\n😀\n\r".toList

theorem stackedReturns_lines_are_pieces :
    stackedReturns.count '\n' + 1 < 2 ^ 32 ∧
      (ofText stackedReturns).lineTexts stackedReturns =
        ["é\r".toList, [], "😀".toList, []] ∧
      (ofText stackedReturns).lineText? stackedReturns 4 = none ∧
      ∃ pieces, Text.CutsInto stackedReturns (ofText stackedReturns).lineStarts pieces ∧
        pieces.flatten = stackedReturns := by
  have few : stackedReturns.count '\n' + 1 < 2 ^ 32 := by decide
  obtain ⟨countEq, -, noOther, allLines, -, -, cut⟩ := lines_are_pieces_between_feeds few
  refine ⟨few, ?_, noOther 4 (by rw [countEq]; decide), cut⟩
  rw [allLines]
  decide

end LineIndex

end CallHierarchy
