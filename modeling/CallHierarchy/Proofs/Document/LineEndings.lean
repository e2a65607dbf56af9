import CallHierarchy.Proofs.Document.Lines

/-!
Line feeds, and line feeds with a carriage return before them. The returns go away with the
terminators, so the lines, the words on them and the declarations are the same with and without
them. Every offset behind the first line moves; the position where a beginning of the text ends does
not, and a word that has no character of a terminator is found behind the same beginnings.
-/

namespace CallHierarchy

namespace Text

/-- The text with a carriage return before every line feed. -/
def withReturns (text : Text) : Text :=
  text.flatMap fun character => if character = '\n' then ['\r', '\n'] else [character]

@[simp] theorem withReturns_nil : withReturns [] = [] :=
  rfl

@[simp] theorem withReturns_feed (rest : Text) :
    withReturns ('\n' :: rest) = '\r' :: '\n' :: withReturns rest :=
  rfl

theorem withReturns_cons
    {first : Char} (notFeed : first ≠ '\n') (rest : Text) :
    withReturns (first :: rest) = first :: withReturns rest := by
  simp [withReturns, notFeed]

@[simp] theorem withReturns_append
    (left right : Text) :
    withReturns (left ++ right) = withReturns left ++ withReturns right :=
  List.flatMap_append

theorem withReturns_of_not_mem
    {text : Text} (noFeed : '\n' ∉ text) :
    withReturns text = text := by
  induction text with
  | nil => rfl
  | cons first rest inductionHypothesis =>
      rw [List.mem_cons, not_or] at noFeed
      rw [withReturns_cons (Ne.symm noFeed.1), inductionHypothesis noFeed.2]

@[simp] theorem count_withReturns (text : Text) :
    (withReturns text).count '\n' = text.count '\n' := by
  induction text with
  | nil => rfl
  | cons first rest inductionHypothesis =>
      by_cases isFeed : first = '\n'
      · simp [isFeed, inductionHypothesis]
      · rw [withReturns_cons isFeed, List.count_cons_of_ne isFeed, List.count_cons_of_ne isFeed,
          inductionHypothesis]

theorem unitLength_le_withReturns (text : Text) :
    unitLength text ≤ unitLength (withReturns text) := by
  induction text with
  | nil => exact Nat.le_refl _
  | cons first rest inductionHypothesis =>
      by_cases isFeed : first = '\n'
      · simp only [isFeed, withReturns_feed, unitLength_cons]
        omega
      · simp only [withReturns_cons isFeed, unitLength_cons]
        omega

theorem FitsPositions.of_withReturns
    {text : Text} (fits : FitsPositions (withReturns text)) :
    FitsPositions text where
  lines := by
    have lines := fits.lines
    rwa [count_withReturns] at lines
  units := Nat.lt_of_le_of_lt (unitLength_le_withReturns text) fits.units

theorem lastLine_withReturns_of_nil
    {text : Text} (atStart : lastLine text = []) :
    lastLine (withReturns text) = [] := by
  rcases lastLine_eq_nil_iff.1 atStart with rfl | ⟨earlier, rfl⟩
  · rfl
  · apply lastLine_eq_nil_iff.2
    exact Or.inr ⟨withReturns earlier ++ ['\r'], by simp⟩

@[simp] theorem lastLine_withReturns (text : Text) :
    lastLine (withReturns text) = lastLine text := by
  obtain ⟨head, textEq, headStart, noFeed⟩ := exists_append_lastLine text
  have cut : withReturns text = withReturns head ++ lastLine text := by
    rw [← withReturns_of_not_mem noFeed, ← withReturns_append, ← textEq]
  rw [cut, lastLine_append_of_not_mem _ noFeed, lastLine_withReturns_of_nil headStart,
    List.nil_append]

/-- With carriage returns before its line feeds, a text ends at the same position. -/
@[simp] theorem endPosition_withReturns (text : Text) :
    endPosition (withReturns text) = endPosition text := by
  simp [endPosition]

theorem not_isPrefixOf_of_not_mem
    {word : Text} (nonempty : word ≠ []) {first : Char} (absent : first ∉ word) (rest : Text) :
    word.isPrefixOf (first :: rest) = false := by
  cases word with
  | nil => exact absurd rfl nonempty
  | cons expected word =>
      rw [List.mem_cons, not_or] at absent
      rw [List.isPrefixOf_cons_cons, beq_false_of_ne (Ne.symm absent.1), Bool.false_and]

section Word

variable {word : Text} (noFeed : '\n' ∉ word) (noReturn : '\r' ∉ word)
include noFeed noReturn

theorem isPrefixOf_withReturns (text : Text) :
    word.isPrefixOf (withReturns text) = word.isPrefixOf text := by
  induction word generalizing text with
  | nil => simp
  | cons expected word inductionHypothesis =>
      cases text with
      | nil => rfl
      | cons first rest =>
          by_cases isFeed : first = '\n'
          · rw [isFeed, withReturns_feed, not_isPrefixOf_of_not_mem (by simp) noReturn,
              not_isPrefixOf_of_not_mem (by simp) noFeed]
          · rw [List.mem_cons, not_or] at noFeed noReturn
            rw [withReturns_cons isFeed, List.isPrefixOf_cons_cons, List.isPrefixOf_cons_cons,
              inductionHypothesis noFeed.2 noReturn.2]

/-- With and without carriage returns, a word is found behind the same beginnings. Two ways to say
where an occurrence stands, each by the offsets of one of the texts, give the same list if they agree
on every beginning that a copy of the word follows. -/
theorem map_occurrencesFrom_withReturns
    {α : Type} (nonempty : word ≠ []) (place placeWithReturns : Nat → α) (text : Text)
    (offset offsetWithReturns skipped : Nat) (noFeedSkipped : '\n' ∉ text.take skipped)
    (agree : ∀ before behind, text = before ++ (word ++ behind) →
      place (offset + byteLength before) =
        placeWithReturns (offsetWithReturns + byteLength (withReturns before))) :
    (occurrencesFrom word text offset skipped).map place =
      (occurrencesFrom word (withReturns text) offsetWithReturns skipped).map
        placeWithReturns := by
  induction text generalizing offset offsetWithReturns skipped with
  | nil => rfl
  | cons first rest inductionHypothesis =>
      -- Behind the first character, the beginnings are shorter by it.
      have restAgree : ∀ before behind, rest = before ++ (word ++ behind) →
          place (offset + first.utf8Size + byteLength before) =
            placeWithReturns (offsetWithReturns + byteLength (withReturns [first]) +
              byteLength (withReturns before)) := by
        intro before behind restEq
        have whole := agree (first :: before) behind (by rw [restEq, List.cons_append])
        rwa [← List.singleton_append, withReturns_append, byteLength_append, byteLength_append,
          ← Nat.add_assoc, ← Nat.add_assoc, byteLength_cons, byteLength_nil, Nat.add_zero] at whole
      by_cases isFeed : first = '\n'
      · subst isFeed
        cases skipped with
        | succ ahead => simp at noFeedSkipped
        | zero =>
            have later := inductionHypothesis (offset + '\n'.utf8Size)
              (offsetWithReturns + byteLength (withReturns ['\n'])) 0 (by simp) restAgree
            rw [withReturns_feed]
            simp only [occurrencesFrom, not_isPrefixOf_of_not_mem nonempty noFeed,
              not_isPrefixOf_of_not_mem nonempty noReturn, Bool.false_eq_true, if_false]
            exact later
      · rw [withReturns_cons isFeed] at restAgree ⊢
        simp only [withReturns_nil, byteLength_cons, byteLength_nil, Nat.add_zero] at restAgree
        cases skipped with
        | succ ahead =>
            rw [List.take_succ_cons, List.mem_cons, not_or] at noFeedSkipped
            rw [occurrencesFrom, occurrencesFrom]
            exact inductionHypothesis _ _ ahead noFeedSkipped.2 restAgree
        | zero =>
            have sameTest : word.isPrefixOf (first :: withReturns rest) =
                word.isPrefixOf (first :: rest) := by
              rw [← withReturns_cons isFeed, isPrefixOf_withReturns noFeed noReturn]
            rw [occurrencesFrom, occurrencesFrom, sameTest]
            by_cases begins : word.isPrefixOf (first :: rest) = true
            · have copyEq : word = (first :: rest).take word.length :=
                List.prefix_iff_eq_take.1 (List.isPrefixOf_iff_prefix.1 begins)
              have noFeedCopy : '\n' ∉ rest.take (word.length - 1) := by
                obtain ⟨length, lengthEq⟩ : ∃ length, word.length = length + 1 :=
                  Nat.exists_eq_succ_of_ne_zero (mt List.length_eq_zero_iff.1 nonempty)
                rw [lengthEq, List.take_succ_cons] at copyEq
                rw [lengthEq, Nat.add_sub_cancel]
                intro member
                apply noFeed
                rw [copyEq]
                exact List.mem_cons_of_mem first member
              obtain ⟨behind, textEq⟩ := List.isPrefixOf_iff_prefix.1 begins
              have here := agree [] behind textEq.symm
              simp only [withReturns_nil, byteLength_nil, Nat.add_zero] at here
              rw [if_pos begins, if_pos begins, List.map_cons, List.map_cons, here,
                inductionHypothesis _ _ _ noFeedCopy restAgree]
            · rw [if_neg begins, if_neg begins]
              exact inductionHypothesis _ _ 0 (by simp) restAgree

end Word

end Text

theorem Text.dropFinal_of_not_mem
    {character : Char} {text : Text} (absent : character ∉ text) :
    dropFinal character text = text := by
  apply dropFinal_of_getLast?_ne
  intro last
  exact absent (List.mem_of_getLast? last)

namespace LineIndex

@[simp] theorem lineCount_withReturns (text : Text) :
    (ofText (Text.withReturns text)).lineCount = (ofText text).lineCount := by
  rw [lineCount, lineCount, length_lineStarts_ofText, length_lineStarts_ofText,
    Text.count_withReturns]

/-- The carriage returns go away with the terminators. -/
theorem lineText?_withReturns
    {text : Text} (noReturn : '\r' ∉ text) (line : Nat) :
    (ofText (Text.withReturns text)).lineText? (Text.withReturns text) line =
      (ofText text).lineText? text line := by
  by_cases present : line ≤ text.count '\n'
  · obtain ⟨before, behind, textEq, atStart, countEq⟩ := Text.exists_line_start present
    obtain ⟨current, rest, behindEq, noFeed, ends⟩ := Text.exists_line_end behind
    have currentNoReturn : '\r' ∉ current := by
      intro member
      apply noReturn
      simp [textEq, behindEq, member]
    have plain := line?_ofText_append atStart noFeed ends
    have returnedStart := Text.lastLine_withReturns_of_nil atStart
    have returned : (ofText (Text.withReturns (before ++ (current ++ rest)))).line?
        (Text.withReturns (before ++ (current ++ rest))) (before.count '\n') =
          some (Text.byteLength (Text.withReturns before), current) := by
      rw [Text.withReturns_append, Text.withReturns_append, Text.withReturns_of_not_mem noFeed,
        ← Text.count_withReturns]
      cases rest with
      | nil =>
          rw [Text.withReturns_nil, line?_ofText_append returnedStart noFeed ends,
            Text.dropFinal_of_not_mem currentNoReturn]
      | cons feed later =>
          obtain rfl : feed = '\n' := ends feed rfl
          -- The return ends the line, and is dropped from it.
          have returnedNoFeed : '\n' ∉ current ++ ['\r'] := by simp [noFeed]
          have dropped : Text.dropFinal '\r' (current ++ ['\r']) = current := by
            simp [Text.dropFinal]
          have returnedEnds : ∀ character ∈ ('\n' :: Text.withReturns later).head?,
              character = '\n' := by simp
          have found := line?_ofText_append returnedStart returnedNoFeed returnedEnds
          rw [dropped, List.append_assoc, List.singleton_append] at found
          exact found
    rw [behindEq] at textEq
    rw [lineText?, lineText?, textEq, ← countEq, plain, returned, Option.map_some,
      Option.map_some, Text.dropFinal_of_not_mem currentNoReturn]
  · have absent : text.count '\n' < line := Nat.lt_of_not_le present
    rw [lineText?, lineText?, line?_of_count_lt absent,
      line?_of_count_lt (by rwa [Text.count_withReturns])]

end LineIndex

namespace Snapshot

def withReturns (document : Snapshot) : Snapshot :=
  { document with text := Text.withReturns document.text }

section NoReturn

variable {document : Snapshot} (noReturn : '\r' ∉ document.text)
include noReturn

theorem lineText?_withReturns (line : Nat) :
    document.withReturns.lineText? line = document.lineText? line :=
  LineIndex.lineText?_withReturns noReturn line

theorem lineTexts_withReturns :
    document.withReturns.lineTexts = document.lineTexts := by
  have sameLines : document.withReturns.lineIndex.lineText? document.withReturns.text =
      document.lineIndex.lineText? document.text :=
    funext (lineText?_withReturns noReturn)
  have sameCount : document.withReturns.lineIndex.lineCount = document.lineIndex.lineCount :=
    LineIndex.lineCount_withReturns document.text
  rw [lineTexts, lineTexts, LineIndex.lineTexts, LineIndex.lineTexts, sameLines, sameCount]

theorem wordRangeAt?_withReturns (position : Position) :
    document.withReturns.wordRangeAt? position = document.wordRangeAt? position := by
  rw [wordRangeAt?, wordRangeAt?, lineText?_withReturns noReturn]

end NoReturn

end Snapshot

end CallHierarchy
