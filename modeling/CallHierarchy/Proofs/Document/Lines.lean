import CallHierarchy.Document.Snapshot
import CallHierarchy.Proofs.Text.Boundary
import Mathlib.Data.List.TakeWhile

/-!
Lines of a text, seen from the beginnings of the text. A beginning `before` of a text ends on the
line that is numbered by its line feeds, in the column that its last line fills, and this is the
position of the offset that counts its bytes. Positions of longer beginnings come later.
-/

namespace CallHierarchy

namespace Text

/-- What stands behind the last line feed. -/
def lastLine (text : Text) : Text :=
  (text.reverse.takeWhile (· ≠ '\n')).reverse

theorem lastLine_append_of_not_mem
    (left : Text) {right : Text} (noFeed : '\n' ∉ right) :
    lastLine (left ++ right) = lastLine left ++ right := by
  have rightTaken : ∀ character ∈ right.reverse, decide (character ≠ '\n') = true := by
    intro character member
    rw [decide_eq_true_iff]
    exact ne_of_mem_of_not_mem (List.mem_reverse.1 member) noFeed
  rw [lastLine, List.reverse_append, List.takeWhile_append_of_pos rightTaken,
    List.reverse_append, List.reverse_reverse]
  rfl

theorem lastLine_eq_nil_iff
    {text : Text} :
    lastLine text = [] ↔ text = [] ∨ ∃ earlier, text = earlier ++ ['\n'] := by
  constructor
  · intro atStart
    rcases List.eq_nil_or_concat text with empty | ⟨earlier, last, textEq⟩
    · exact Or.inl empty
    · rw [List.concat_eq_append] at textEq
      refine Or.inr ⟨earlier, ?_⟩
      by_cases isFeed : last = '\n'
      · rw [textEq, isFeed]
      · have noFeed : '\n' ∉ [last] := by
          rw [List.mem_singleton]
          exact Ne.symm isFeed
        rw [textEq, lastLine_append_of_not_mem earlier noFeed] at atStart
        simp at atStart
  · rintro (rfl | ⟨earlier, rfl⟩)
    · rfl
    · simp [lastLine]

/-- What stands before the last line is made of whole lines. -/
theorem exists_append_lastLine
    (text : Text) :
    ∃ head, text = head ++ lastLine text ∧ lastLine head = [] ∧ '\n' ∉ lastLine text := by
  refine ⟨(text.reverse.dropWhile (· ≠ '\n')).reverse, ?_, ?_, ?_⟩
  · rw [lastLine, ← List.reverse_append, List.takeWhile_append_dropWhile,
      List.reverse_reverse]
  · rw [lastLine, List.reverse_reverse, List.reverse_eq_nil_iff, List.takeWhile_eq_nil_iff]
    intro nonempty
    exact List.dropWhile_get_zero_not (· ≠ '\n') text.reverse nonempty
  · intro member
    have isOther := List.mem_takeWhile_imp (List.mem_reverse.1 member)
    simp at isOther

/-- Every line but those past the end starts behind some beginning of the text. -/
theorem exists_line_start
    {text : Text} {line : Nat} (present : line ≤ text.count '\n') :
    ∃ before behind,
      text = before ++ behind ∧ lastLine before = [] ∧ before.count '\n' = line := by
  induction text generalizing line with
  | nil => exact ⟨[], [], rfl, rfl, (Nat.le_zero.1 present).symm⟩
  | cons first rest inductionHypothesis =>
      cases line with
      | zero => exact ⟨[], first :: rest, rfl, rfl, rfl⟩
      | succ line =>
          by_cases isFeed : first = '\n'
          · subst isFeed
            rw [List.count_cons_self, Nat.add_le_add_iff_right] at present
            obtain ⟨before, behind, restEq, atStart, countEq⟩ := inductionHypothesis present
            refine ⟨'\n' :: before, behind, by rw [restEq, List.cons_append], ?_, ?_⟩
            · rcases lastLine_eq_nil_iff.1 atStart with rfl | ⟨earlier, rfl⟩
              · rfl
              · exact lastLine_eq_nil_iff.2 (Or.inr ⟨'\n' :: earlier, rfl⟩)
            · rw [List.count_cons_self, countEq]
          · rw [List.count_cons_of_ne isFeed] at present
            obtain ⟨before, behind, restEq, atStart, countEq⟩ := inductionHypothesis present
            refine ⟨first :: before, behind, by rw [restEq, List.cons_append], ?_, ?_⟩
            · rcases lastLine_eq_nil_iff.1 atStart with rfl | ⟨earlier, rfl⟩
              · cases countEq
              · exact lastLine_eq_nil_iff.2 (Or.inr ⟨first :: earlier, rfl⟩)
            · rw [List.count_cons_of_ne isFeed, countEq]

/-- A beginning that ends in front of a line begins every other one with no fewer line feeds. -/
theorem exists_append_of_count_le
    {before behind later rest : Text}
    (same : before ++ behind = later ++ rest)
    (atStart : lastLine before = [])
    (fewer : before.count '\n' ≤ later.count '\n') :
    ∃ middle, later = before ++ middle ∧ behind = middle ++ rest := by
  rcases List.append_eq_append_iff.1 same with
    ⟨middle, laterEq, behindEq⟩ | ⟨middle, beforeEq, restEq⟩
  · exact ⟨middle, laterEq, behindEq⟩
  · have noFeed : '\n' ∉ middle := by
      rw [beforeEq, List.count_append] at fewer
      exact List.count_eq_zero.1 (by omega)
    rw [beforeEq, lastLine_append_of_not_mem later noFeed, List.append_eq_nil_iff] at atStart
    obtain ⟨_, rfl⟩ := atStart
    refine ⟨[], ?_, ?_⟩
    · rw [beforeEq, List.append_nil, List.append_nil]
    · rw [restEq, List.nil_append, List.nil_append]

theorem exists_line_end
    (text : Text) :
    ∃ line rest,
      text = line ++ rest ∧ '\n' ∉ line ∧ ∀ character ∈ rest.head?, character = '\n' := by
  refine ⟨text.takeWhile (· ≠ '\n'), text.dropWhile (· ≠ '\n'),
    List.takeWhile_append_dropWhile.symm, ?_, ?_⟩
  · intro member
    have isOther := List.mem_takeWhile_imp member
    simp at isOther
  · intro character isHead
    have stopped := List.head?_dropWhile_not (· ≠ '\n') text
    rw [isHead] at stopped
    simpa using stopped

theorem dropFinal_of_getLast?_ne
    {character : Char} {text : Text} (other : text.getLast? ≠ some character) :
    dropFinal character text = text :=
  if_neg other

theorem dropFinal_append
    (character : Char) (left : Text) {right : Text} (nonempty : right ≠ []) :
    dropFinal character (left ++ right) = left ++ dropFinal character right := by
  obtain ⟨last, isLast⟩ := Option.ne_none_iff_exists'.1 (mt List.getLast?_eq_none_iff.1 nonempty)
  have sameLast : (left ++ right).getLast? = right.getLast? := by
    rw [List.getLast?_append, isLast, Option.some_or]
  rw [dropFinal, dropFinal, sameLast, List.dropLast_append_of_ne_nil nonempty]
  exact (apply_ite (left ++ ·) _ _ _).symm

/-- Whether a place between two parts of a text stands in the visible part of its line: a character
of the same line follows, or no carriage return stands just before. -/
def InLine (before behind : Text) : Prop :=
  (∃ character ∈ behind.head?, character ≠ '\n') ∨ before.getLast? ≠ some '\r'

theorem inLine_of_lastLine
    {before : Text} (behind : Text) (atStart : lastLine before = []) :
    InLine before behind := by
  right
  rcases lastLine_eq_nil_iff.1 atStart with rfl | ⟨earlier, rfl⟩
  · simp
  · simp

theorem InLine.exists_dropFinal_lastLine
    {before more rest : Text} (inLine : InLine before (more ++ rest))
    (ends : ∀ character ∈ rest.head?, character = '\n') :
    ∃ visible, dropFinal '\r' (lastLine before ++ more) = lastLine before ++ visible := by
  by_cases atEnd : more = []
  · subst atEnd
    refine ⟨[], ?_⟩
    rw [List.append_nil]
    apply dropFinal_of_getLast?_ne
    intro isLast
    rcases inLine with ⟨character, isHead, notFeed⟩ | noReturn
    · exact notFeed (ends character isHead)
    · obtain ⟨head, beforeEq, _, _⟩ := exists_append_lastLine before
      apply noReturn
      rw [beforeEq, List.getLast?_append, isLast, Option.some_or]
  · exact ⟨dropFinal '\r' more, dropFinal_append '\r' (lastLine before) atEnd⟩

/-! ## The position where a text ends -/

/-- The position where a text ends. -/
def endPosition (text : Text) : Position :=
  ⟨saturate (text.count '\n'), columnCount (lastLine text)⟩

theorem unitLength_lastLine_le
    (text : Text) :
    unitLength (lastLine text) ≤ unitLength text := by
  obtain ⟨head, textEq, _, _⟩ := exists_append_lastLine text
  have lengths := congrArg unitLength textEq
  rw [unitLength_append] at lengths
  omega

theorem FitsPositions.line_endPosition
    {text : Text} (fits : FitsPositions text) :
    (endPosition text).line = text.count '\n' :=
  saturate_of_lt (Nat.lt_of_succ_lt fits.lines)

theorem FitsPositions.character_endPosition
    {text : Text} (fits : FitsPositions text) :
    (endPosition text).character = unitLength (lastLine text) :=
  saturate_of_lt (Nat.lt_of_le_of_lt (unitLength_lastLine_le text) fits.units)

end Text

namespace Position

def Before (left right : Position) : Prop :=
  left.line < right.line ∨ left.line = right.line ∧ left.character < right.character

theorem atOrBefore_iff_not_before
    (left right : Position) :
    left.atOrBefore right = true ↔ ¬ right.Before left := by
  simp only [atOrBefore, Before, Bool.or_eq_true, Bool.and_eq_true, decide_eq_true_eq,
    beq_iff_eq]
  omega

theorem Before.atOrBefore
    {left right : Position} (before : left.Before right) :
    left.atOrBefore right = true := by
  rw [atOrBefore_iff_not_before]
  unfold Before at before ⊢
  omega

theorem atOrBefore_trans
    {left middle right : Position} (leftMiddle : left.atOrBefore middle = true)
    (middleRight : middle.atOrBefore right = true) :
    left.atOrBefore right = true := by
  rw [atOrBefore_iff_not_before, Before] at leftMiddle middleRight ⊢
  omega

theorem eq_of_not_before
    {left right : Position} (notBefore : ¬ left.Before right) (notBehind : ¬ right.Before left) :
    left = right := by
  cases left
  cases right
  simp only [Before] at notBefore notBehind
  simp only [mk.injEq]
  omega

end Position

namespace Text

/-- A longer beginning ends at a later position. -/
theorem FitsPositions.endPosition_before
    {before middle : Text} (fits : FitsPositions (before ++ middle)) (longer : middle ≠ []) :
    (endPosition before).Before (endPosition (before ++ middle)) := by
  unfold Position.Before
  rw [fits.of_append.line_endPosition, fits.line_endPosition, List.count_append]
  by_cases hasFeed : '\n' ∈ middle
  · have more : 0 < middle.count '\n' := List.count_pos_iff.2 hasFeed
    left
    omega
  · right
    have noMore : middle.count '\n' = 0 := List.count_eq_zero.2 hasFeed
    have wider : 0 < unitLength middle := unitLength_pos longer
    rw [fits.of_append.character_endPosition, fits.character_endPosition,
      lastLine_append_of_not_mem before hasFeed, unitLength_append]
    omega

end Text

namespace LineIndex

/-! ## Starts of lines -/

theorem startsAfter_append
    (left right : Text) (offset : Nat) :
    startsAfter (left ++ right) offset =
      startsAfter left offset ++ startsAfter right (offset + Text.byteLength left) := by
  induction left generalizing offset with
  | nil => rfl
  | cons first rest inductionHypothesis =>
      have shifted : offset + Text.byteLength (first :: rest) =
          offset + first.utf8Size + Text.byteLength rest := by
        rw [Text.byteLength_cons]
        omega
      by_cases isFeed : first = '\n'
      · rw [List.cons_append, startsAfter, startsAfter, if_pos isFeed, if_pos isFeed,
          inductionHypothesis, shifted, List.cons_append]
      · rw [List.cons_append, startsAfter, startsAfter, if_neg isFeed, if_neg isFeed,
          inductionHypothesis, shifted]

theorem length_startsAfter
    (text : Text) (offset : Nat) :
    (startsAfter text offset).length = text.count '\n' := by
  induction text generalizing offset with
  | nil => rfl
  | cons first rest inductionHypothesis =>
      by_cases isFeed : first = '\n'
      · rw [startsAfter, if_pos isFeed, List.length_cons, inductionHypothesis, isFeed,
          List.count_cons_self]
      · rw [startsAfter, if_neg isFeed, inductionHypothesis, List.count_cons_of_ne isFeed]

theorem bounds_of_mem_startsAfter
    {text : Text} {offset start : Nat}
    (member : start ∈ startsAfter text offset) :
    offset < start ∧ start ≤ offset + Text.byteLength text := by
  induction text generalizing offset with
  | nil => simp [startsAfter] at member
  | cons first rest inductionHypothesis =>
      have positive : 0 < first.utf8Size := Char.utf8Size_pos first
      rw [Text.byteLength_cons]
      by_cases isFeed : first = '\n'
      · rw [startsAfter, if_pos isFeed] at member
        rcases List.mem_cons.1 member with rfl | later
        · omega
        · have laterBounds := inductionHypothesis later
          omega
      · rw [startsAfter, if_neg isFeed] at member
        have laterBounds := inductionHypothesis member
        omega

theorem lineStarts_ofText_append
    (before behind : Text) :
    (ofText (before ++ behind)).lineStarts =
      (0 :: startsAfter before 0) ++ startsAfter behind (Text.byteLength before) := by
  rw [ofText, startsAfter_append, Nat.zero_add]
  rfl

/-- One line starts with the text, and one behind every line feed. -/
theorem length_lineStarts_ofText
    (text : Text) :
    (ofText text).lineStarts.length = text.count '\n' + 1 := by
  rw [ofText, List.length_cons, length_startsAfter]

theorem lineCount_ofText
    {text : Text} (few : text.count '\n' + 1 < 2 ^ 32) :
    (ofText text).lineCount = text.count '\n' + 1 := by
  rw [lineCount, length_lineStarts_ofText, Text.saturate_of_lt few]

/-- A line starts behind the beginning that stops at it. -/
theorem getElem?_lineStarts_ofText
    {before : Text} (behind : Text) (atStart : Text.lastLine before = []) :
    (ofText (before ++ behind)).lineStarts[before.count '\n']? =
      some (Text.byteLength before) := by
  rcases Text.lastLine_eq_nil_iff.1 atStart with rfl | ⟨earlier, rfl⟩
  · rfl
  · have countEq : (earlier ++ ['\n']).count '\n' = (startsAfter earlier 0).length + 1 := by
      rw [List.count_append, List.count_singleton_self, length_startsAfter]
    have lastStart : startsAfter (earlier ++ ['\n']) 0 =
        startsAfter earlier 0 ++ [Text.byteLength (earlier ++ ['\n'])] := by
      rw [startsAfter_append, Text.byteLength_append, Nat.zero_add]
      rfl
    rw [countEq, lineStarts_ofText_append, lastStart, List.cons_append,
      List.getElem?_cons_succ, List.append_assoc, List.getElem?_append_right (Nat.le_refl _),
      Nat.sub_self]
    rfl

/-- The lines that start within a beginning of the text. -/
theorem takeWhile_lineStarts_ofText
    (before behind : Text) :
    (ofText (before ++ behind)).lineStarts.takeWhile (· ≤ Text.byteLength before) =
      0 :: startsAfter before 0 := by
  have within : ∀ start ∈ 0 :: startsAfter before 0,
      decide (start ≤ Text.byteLength before) = true := by
    intro start member
    rw [decide_eq_true_iff]
    rcases List.mem_cons.1 member with rfl | later
    · exact Nat.zero_le _
    · have bounds := bounds_of_mem_startsAfter later
      omega
  have pastEnd : (startsAfter behind (Text.byteLength before)).takeWhile
      (· ≤ Text.byteLength before) = [] := by
    rw [List.takeWhile_eq_nil_iff]
    intro nonempty taken
    have bounds := bounds_of_mem_startsAfter (List.getElem_mem nonempty)
    rw [decide_eq_true_iff] at taken
    exact Nat.lt_irrefl _ (Nat.lt_of_lt_of_le bounds.1 taken)
  rw [lineStarts_ofText_append, List.takeWhile_append_of_pos within, pastEnd,
    List.append_nil]

/-- The offset that counts the bytes of a beginning has the position where the beginning ends. -/
theorem position_ofText_append
    (before behind : Text) :
    (ofText (before ++ behind)).position (before ++ behind) (Text.byteLength before) =
      Text.endPosition before := by
  obtain ⟨head, beforeEq, headStart, noFeed⟩ := Text.exists_append_lastLine before
  have lineEq : (0 :: startsAfter before 0).length - 1 = before.count '\n' := by
    rw [List.length_cons, length_startsAfter, Nat.add_sub_cancel]
  have headCount : before.count '\n' = head.count '\n' := by
    have counts := congrArg (List.count '\n') beforeEq
    rwa [List.count_append, List.count_eq_zero.2 noFeed, Nat.add_zero] at counts
  have textEq : before ++ behind = head ++ (Text.lastLine before ++ behind) := by
    rw [← List.append_assoc, ← beforeEq]
  have startEq : (ofText (before ++ behind)).lineStarts[before.count '\n']? =
      some (Text.byteLength head) := by
    rw [textEq, headCount]
    exact getElem?_lineStarts_ofText _ headStart
  have lengthEq : Text.byteLength before =
      Text.byteLength head + Text.byteLength (Text.lastLine before) := by
    rw [← Text.byteLength_append, ← beforeEq]
  have sliceEq : Text.slice? (before ++ behind) (Text.byteLength head)
      (Text.byteLength before) = some (Text.lastLine before) := by
    rw [textEq, lengthEq]
    exact Text.slice?_append head (Text.lastLine before) behind
  unfold position
  dsimp only
  rw [Text.floorBoundary_append, takeWhile_lineStarts_ofText, lineEq, startEq]
  dsimp only [Option.getD_some]
  rw [sliceEq]
  rfl

/-! ## Texts of lines -/

theorem withoutTerminator_of_not_mem
    {line : Text} (noFeed : '\n' ∉ line) :
    withoutTerminator line = Text.dropFinal '\r' line := by
  have noFinalFeed : line.getLast? ≠ some '\n' := by
    intro last
    exact noFeed (List.mem_of_getLast? last)
  rw [withoutTerminator, Text.dropFinal_of_getLast?_ne noFinalFeed]

theorem withoutTerminator_append_feed
    (line : Text) :
    withoutTerminator (line ++ ['\n']) = Text.dropFinal '\r' line := by
  have dropped : Text.dropFinal '\n' (line ++ ['\n']) = line := by
    rw [Text.dropFinal, if_pos (by rw [List.getLast?_concat]), List.dropLast_concat]
  rw [withoutTerminator, dropped]

/-- A line goes from its start up to the next line feed, or to the end of the text. -/
theorem line?_ofText_append
    {before line rest : Text} (atStart : Text.lastLine before = []) (noFeed : '\n' ∉ line)
    (ends : ∀ character ∈ rest.head?, character = '\n') :
    (ofText (before ++ (line ++ rest))).line? (before ++ (line ++ rest)) (before.count '\n') =
      some (Text.byteLength before, Text.dropFinal '\r' line) := by
  have startEq := getElem?_lineStarts_ofText (line ++ rest) atStart
  unfold line?
  rw [startEq]
  dsimp only [Option.bind_eq_bind, Option.bind_some]
  cases rest with
  | nil =>
      have noNext :
          (ofText (before ++ (line ++ []))).lineStarts[before.count '\n' + 1]? = none := by
        apply List.getElem?_eq_none
        rw [length_lineStarts_ofText, List.append_nil, List.count_append,
          List.count_eq_zero.2 noFeed, Nat.add_zero]
      rw [noNext, Option.getD_none, List.append_nil, Text.byteLength_append]
      have sliceEq := Text.slice?_append before line []
      rw [List.append_nil] at sliceEq
      rw [sliceEq, Option.bind_some, withoutTerminator_of_not_mem noFeed]
  | cons feed later =>
      obtain rfl : feed = '\n' := ends feed rfl
      have nextStart : Text.lastLine (before ++ (line ++ ['\n'])) = [] :=
        Text.lastLine_eq_nil_iff.2 (Or.inr ⟨before ++ line, by rw [List.append_assoc]⟩)
      have nextCount :
          (before ++ (line ++ ['\n'])).count '\n' = before.count '\n' + 1 := by
        rw [List.count_append, List.count_append, List.count_eq_zero.2 noFeed,
          List.count_singleton_self, Nat.zero_add]
      have textEq : before ++ (line ++ '\n' :: later) =
          (before ++ (line ++ ['\n'])) ++ later := by
        simp only [List.append_assoc, List.singleton_append]
      have nextEq := getElem?_lineStarts_ofText later nextStart
      rw [nextCount, ← textEq] at nextEq
      have sliceEq := Text.slice?_append before (line ++ ['\n']) later
      rw [← List.append_assoc before, ← textEq, ← Text.byteLength_append] at sliceEq
      rw [nextEq, Option.getD_some, sliceEq, Option.bind_some, withoutTerminator_append_feed]

theorem line?_of_count_lt
    {text : Text} {line : Nat} (absent : text.count '\n' < line) :
    (ofText text).line? text line = none := by
  have noStart : (ofText text).lineStarts[line]? = none := by
    apply List.getElem?_eq_none
    rw [length_lineStarts_ofText]
    omega
  rw [line?, noStart]
  rfl

theorem exists_lineText?
    {text : Text} {line : Nat} (present : line ≤ text.count '\n') :
    ∃ lineText, (ofText text).lineText? text line = some lineText := by
  obtain ⟨before, behind, textEq, atStart, rfl⟩ := Text.exists_line_start present
  obtain ⟨current, rest, behindEq, noFeed, ends⟩ := Text.exists_line_end behind
  rw [textEq, behindEq, lineText?, line?_ofText_append atStart noFeed ends]
  exact ⟨_, rfl⟩

/-- The list of the texts of all lines gives the text of each line at its number. -/
theorem getElem?_lineTexts_ofText
    {text : Text} (few : text.count '\n' + 1 < 2 ^ 32) (line : Nat) :
    ((ofText text).lineTexts text)[line]? = (ofText text).lineText? text line := by
  -- No line is missing, so nothing is cut off and every text is there.
  have present : ∀ number ∈ List.range (text.count '\n' + 1),
      (ofText text).lineText? text number =
        some (((ofText text).lineText? text number).getD []) := by
    intro number member
    obtain ⟨lineText, found⟩ :=
      exists_lineText? (Nat.le_of_lt_succ (List.mem_range.1 member))
    rw [found, Option.getD_some]
  have allPresent : ∀ lineText? ∈
      (List.range (text.count '\n' + 1)).map ((ofText text).lineText? text),
      lineText?.isSome = true := by
    intro lineText? member
    obtain ⟨number, inRange, rfl⟩ := List.mem_map.1 member
    rw [present number inRange, Option.isSome_some]
  rw [lineTexts, lineCount_ofText few, List.takeWhile_eq_self_iff.2 allPresent, List.filterMap_map,
    Function.id_comp, List.filterMap_congr present, List.filterMap_eq_map', List.getElem?_map]
  by_cases within : line < text.count '\n' + 1
  · rw [List.getElem?_range within, Option.map_some, ← present line (List.mem_range.2 within)]
  · have pastEnd : text.count '\n' < line := by omega
    rw [List.getElem?_eq_none (by rw [List.length_range]; omega), Option.map_none, lineText?,
      line?_of_count_lt pastEnd, Option.map_none]

theorem columnOffset_append
    (left right : Text) :
    (left ++ right).columnOffset (Text.unitLength left) = Text.byteLength left :=
  (Text.firstAtColumn_append left right).columnOffset_eq

/-- A position in the visible part of its line has the offset of the place where it stands. -/
theorem offset_ofText_of_inLine
    {before behind : Text} (inLine : Text.InLine before behind) :
    (ofText (before ++ behind)).offset (before ++ behind)
        ⟨before.count '\n', Text.unitLength (Text.lastLine before)⟩ =
      Text.byteLength before := by
  obtain ⟨head, beforeEq, headStart, noFeed⟩ := Text.exists_append_lastLine before
  obtain ⟨more, rest, behindEq, moreNoFeed, ends⟩ := Text.exists_line_end behind
  have headCount : before.count '\n' = head.count '\n' := by
    have counts := congrArg (List.count '\n') beforeEq
    rwa [List.count_append, List.count_eq_zero.2 noFeed, Nat.add_zero] at counts
  have textEq : before ++ behind = head ++ ((Text.lastLine before ++ more) ++ rest) := by
    rw [List.append_assoc, ← behindEq, ← List.append_assoc, ← beforeEq]
  have lineNoFeed : '\n' ∉ Text.lastLine before ++ more := by
    rw [List.mem_append, not_or]
    exact ⟨noFeed, moreNoFeed⟩
  rw [behindEq] at inLine
  obtain ⟨visible, visibleEq⟩ := inLine.exists_dropFinal_lastLine ends
  unfold offset
  rw [textEq, headCount, line?_ofText_append headStart lineNoFeed ends, visibleEq]
  dsimp only
  rw [columnOffset_append, ← Text.byteLength_append, ← beforeEq]

/-- The first column of a line has the offset at which the line starts. -/
theorem offset_ofText_append
    {before : Text} (behind : Text) (atStart : Text.lastLine before = []) :
    (ofText (before ++ behind)).offset (before ++ behind) ⟨before.count '\n', 0⟩ =
      Text.byteLength before := by
  have offsetEq := offset_ofText_of_inLine (Text.inLine_of_lastLine behind atStart)
  rwa [atStart] at offsetEq

end LineIndex

end CallHierarchy
