import CallHierarchy.Proofs.Document.Words

/-!
Words as longest runs. The word that a position finds on its line is the run of word characters around
the cursor that every other such run lies within; it is found from all its columns, and nothing is
found exactly when the line does not exist or no word character touches the cursor.
-/

namespace CallHierarchy

namespace Text

/-- A run of word characters of a line, between `front` and `back`, which has the place with the
offset `cursor` in it or at one of its ends. -/
structure IsRunAt (line : Text) (cursor : Nat) (front run back : Text) : Prop where
  lineEq : line = front ++ (run ++ back)
  characters : ∀ character ∈ run, isWordCharacter character = true
  starts : front.byteLength ≤ cursor
  finishes : cursor ≤ (front ++ run).byteLength

/-- The run at a place that reaches as far as any other one there, in both directions. -/
structure IsLongestRunAt (line : Text) (cursor : Nat) (front run back : Text) : Prop
    extends IsRunAt line cursor front run back where
  covers : ∀ {otherFront other otherBack},
    IsRunAt line cursor otherFront other otherBack →
      front.byteLength ≤ otherFront.byteLength ∧
        (otherFront ++ other).byteLength ≤ (front ++ run).byteLength

section Run

variable {line front run back otherFront other otherBack : Text} {cursor : Nat}

/-- A run that no word character stands before starts as early as any other at its place. -/
theorem IsRunAt.byteLength_front_le
    (isRun : IsRunAt line cursor front run back)
    (frontStops : ∀ character ∈ front.getLast?, isWordCharacter character = false)
    (isOther : IsRunAt line cursor otherFront other otherBack) :
    front.byteLength ≤ otherFront.byteLength := by
  by_contra longer
  -- What the other run has more begins before `front` ends, so it has the last character of `front`.
  obtain ⟨more, frontEq, otherEq⟩ := exists_append_of_byteLength_le
    (isOther.lineEq.symm.trans isRun.lineEq) (Nat.le_of_not_le longer)
  have notShorter : more.byteLength ≤ other.byteLength := by
    have reaches := Nat.le_trans isRun.starts isOther.finishes
    rw [frontEq, byteLength_append, byteLength_append] at reaches
    omega
  obtain ⟨left, moreIs, _⟩ := exists_append_of_byteLength_le otherEq.symm notShorter
  have nonempty : more ≠ [] := by
    rintro rfl
    rw [frontEq, List.append_nil] at longer
    exact longer (Nat.le_refl _)
  obtain ⟨last, isLast⟩ := Option.ne_none_iff_exists'.1 (mt List.getLast?_eq_none_iff.1 nonempty)
  have inOther : last ∈ other := by
    rw [moreIs]
    exact List.mem_append_left left (List.mem_of_getLast? isLast)
  have lastOfFront : front.getLast? = some last := by
    rw [frontEq, List.getLast?_append, isLast, Option.some_or]
  exact absurd (isOther.characters last inOther) (Bool.eq_false_iff.1 (frontStops last lastOfFront))

/-- A run that no word character stands behind ends as late as any other at its place. -/
theorem IsRunAt.byteLength_run_le
    (isRun : IsRunAt line cursor front run back)
    (backStops : ∀ character ∈ back.head?, isWordCharacter character = false)
    (isOther : IsRunAt line cursor otherFront other otherBack) :
    (otherFront ++ other).byteLength ≤ (front ++ run).byteLength := by
  by_contra longer
  have same : (front ++ run) ++ back = (otherFront ++ other) ++ otherBack := by
    rw [List.append_assoc, List.append_assoc, ← isRun.lineEq, ← isOther.lineEq]
  obtain ⟨more, otherEndEq, backEq⟩ :=
    exists_append_of_byteLength_le same (Nat.le_of_not_le longer)
  -- The other run begins before `run` ends, so it has the first character of `back`.
  obtain ⟨right, _, otherIs⟩ := exists_append_of_byteLength_le otherEndEq
    (Nat.le_trans isOther.starts isRun.finishes)
  cases more with
  | nil =>
      rw [otherEndEq, List.append_nil] at longer
      exact longer (Nat.le_refl _)
  | cons first rest =>
      have inOther : first ∈ other := by
        rw [otherIs]
        exact List.mem_append_right right List.mem_cons_self
      have firstOfBack : back.head? = some first := by
        rw [backEq]
        rfl
      exact absurd (isOther.characters first inOther)
        (Bool.eq_false_iff.1 (backStops first firstOfBack))

/-- A run that no word character stands before or behind is the longest one at each of its places. -/
theorem IsRunAt.isLongestRunAt
    (isRun : IsRunAt line cursor front run back)
    (frontStops : ∀ character ∈ front.getLast?, isWordCharacter character = false)
    (backStops : ∀ character ∈ back.head?, isWordCharacter character = false) :
    IsLongestRunAt line cursor front run back where
  toIsRunAt := isRun
  covers := fun isOther =>
    ⟨isRun.byteLength_front_le frontStops isOther, isRun.byteLength_run_le backStops isOther⟩

end Run

theorem exists_finalWord
    (text : Text) :
    ∃ front left, text = front ++ left ∧
      (∀ character ∈ front.getLast?, isWordCharacter character = false) ∧
      ∀ character ∈ left, isWordCharacter character = true := by
  refine ⟨(text.reverse.dropWhile isWordCharacter).reverse,
    (text.reverse.takeWhile isWordCharacter).reverse, ?_, ?_, ?_⟩
  · rw [← List.reverse_append, List.takeWhile_append_dropWhile, List.reverse_reverse]
  · intro character isLast
    have stopped := List.head?_dropWhile_not isWordCharacter text.reverse
    rw [List.getLast?_reverse] at isLast
    rw [isLast] at stopped
    simpa using stopped
  · intro character member
    exact List.mem_takeWhile_imp (List.mem_reverse.1 member)

theorem exists_initialWord
    (text : Text) :
    ∃ right back, text = right ++ back ∧
      (∀ character ∈ right, isWordCharacter character = true) ∧
      ∀ character ∈ back.head?, isWordCharacter character = false := by
  refine ⟨text.takeWhile isWordCharacter, text.dropWhile isWordCharacter,
    List.takeWhile_append_dropWhile.symm, fun character => List.mem_takeWhile_imp, ?_⟩
  intro character isHead
  have stopped := List.head?_dropWhile_not isWordCharacter text
  rw [isHead] at stopped
  simpa using stopped

end Text

theorem Range.contains_onLine_iff
    {line first last column : Nat} :
    (onLine line first last).contains ⟨line, column⟩ = true ↔ first ≤ column ∧ column ≤ last := by
  unfold contains Position.atOrBefore onLine
  simp

namespace Snapshot

variable {document : Snapshot} {position : Position}

/-- The cursor of a position is the place of its line, between `before` and `behind`, that the column
is taken to: the first one with as many units before it, or the end of the line. -/
structure IsCursor (document : Snapshot) (position : Position) (before behind : Text) : Prop where
  found : document.lineText? position.line = some (before ++ behind)
  first : Text.FirstAtColumn (before ++ behind) position.character before behind

structure IsWordAt (document : Snapshot) (position : Position) (range : Range)
    (before behind front word back : Text) : Prop where
  cursor : document.IsCursor position before behind
  longest : Text.IsLongestRunAt (before ++ behind) before.byteLength front word back
  nonempty : word ≠ []
  rangeEq : range = Range.onLine position.line (Text.unitLength front)
    (Text.unitLength (front ++ word))
  encloses : range.contains ⟨position.line, Text.unitLength before⟩ = true
  reads : document.textIn range = word

/-- Every position on a line that exists has a cursor. -/
theorem exists_isCursor
    (present : position.line ≤ document.text.count '\n') :
    ∃ before behind, document.IsCursor position before behind := by
  obtain ⟨line, found⟩ : ∃ line, document.lineText? position.line = some line :=
    LineIndex.exists_lineText? present
  obtain ⟨before, behind, first, _⟩ := Text.exists_firstAtColumn line position.character
  obtain rfl := first.lineEq
  exact ⟨before, behind, found, first⟩

theorem IsCursor.wordRangeAt?_eq_none
    {before behind : Text} (cursor : document.IsCursor position before behind)
    (beforeStops : ∀ character ∈ before.getLast?, Text.isWordCharacter character = false)
    (behindStops : ∀ character ∈ behind.head?, Text.isWordCharacter character = false) :
    document.wordRangeAt? position = none :=
  wordRangeAt?_eq_none_of_cursor cursor.found cursor.first.columnOffset_eq beforeStops behindStops

/-- The word characters on both sides of the cursor, and what the position finds by them. -/
theorem IsCursor.exists_word_around
    {before behind : Text} (cursor : document.IsCursor position before behind) :
    ∃ front left right back, before = front ++ left ∧ behind = right ++ back ∧
      (∀ character ∈ front.getLast?, Text.isWordCharacter character = false) ∧
      (∀ character ∈ left ++ right, Text.isWordCharacter character = true) ∧
      (∀ character ∈ back.head?, Text.isWordCharacter character = false) ∧
      document.wordRangeAt? position =
        if left ++ right = [] then none
        else some (Range.onLine position.line (Text.columnCount front)
          (Text.columnCount (front ++ (left ++ right)))) := by
  obtain ⟨front, left, rfl, frontStops, leftWord⟩ := Text.exists_finalWord before
  obtain ⟨right, back, rfl, rightWord, backStops⟩ := Text.exists_initialWord behind
  have word : ∀ character ∈ left ++ right, Text.isWordCharacter character = true :=
    fun character member => (List.mem_append.1 member).elim (leftWord character) (rightWord character)
  refine ⟨front, left, right, back, rfl, rfl, frontStops, word, backStops, ?_⟩
  split
  · rename_i nothing
    obtain ⟨rfl, rfl⟩ := List.append_eq_nil_iff.1 nothing
    rw [List.append_nil, List.nil_append] at cursor
    exact cursor.wordRangeAt?_eq_none frontStops backStops
  · rename_i nonempty
    exact wordRangeAt?_of_cursor cursor.found cursor.first.columnOffset_eq frontStops word nonempty
      backStops

theorem wordRangeAt?_of_absent
    (absent : document.text.count '\n' < position.line) :
    document.wordRangeAt? position = none := by
  have noLine : document.lineText? position.line = none := by
    rw [lineText?, lineIndex, LineIndex.lineText?, LineIndex.line?_of_count_lt absent]
    rfl
  rw [wordRangeAt?, noLine]
  rfl

theorem wordRangeAt?_eq_none_iff :
    document.wordRangeAt? position = none ↔
      document.text.count '\n' < position.line ∨
        ∃ before behind, document.IsCursor position before behind ∧
          (∀ character ∈ before.getLast?, Text.isWordCharacter character = false) ∧
          ∀ character ∈ behind.head?, Text.isWordCharacter character = false := by
  constructor
  · intro noWord
    by_cases absent : document.text.count '\n' < position.line
    · exact Or.inl absent
    · obtain ⟨before, behind, cursor⟩ := exists_isCursor (Nat.le_of_not_lt absent)
      obtain ⟨front, left, right, back, rfl, rfl, frontStops, _, backStops, rangeEq⟩ :=
        cursor.exists_word_around
      have nothing : left ++ right = [] := by
        by_contra nonempty
        rw [if_neg nonempty, noWord] at rangeEq
        cases rangeEq
      obtain ⟨rfl, rfl⟩ := List.append_eq_nil_iff.1 nothing
      rw [List.append_nil, List.nil_append] at cursor
      exact Or.inr ⟨front, back, cursor, frontStops, backStops⟩
  · rintro (absent | ⟨before, behind, cursor, beforeStops, behindStops⟩)
    · exact wordRangeAt?_of_absent absent
    · exact cursor.wordRangeAt?_eq_none beforeStops behindStops

/-- A word that is found is the longest run around the cursor, and it is found from every column of
its range. -/
theorem exists_isWordAt
    {range : Range} (isRange : document.wordRangeAt? position = some range)
    (few : ∀ line, document.lineText? position.line = some line →
      Text.unitLength line < 2 ^ 32) :
    ∃ before behind front word back,
      document.IsWordAt position range before behind front word back ∧
        ∀ column, range.contains ⟨position.line, column⟩ = true →
          document.wordRangeAt? ⟨position.line, column⟩ = some range := by
  have present : position.line ≤ document.text.count '\n' := by
    by_contra absent
    rw [wordRangeAt?_of_absent (Nat.lt_of_not_le absent)] at isRange
    cases isRange
  obtain ⟨before, behind, cursor⟩ := exists_isCursor present
  obtain ⟨front, left, right, back, rfl, rfl, frontStops, isWord, backStops, rangeEq⟩ :=
    cursor.exists_word_around
  have nonempty : left ++ right ≠ [] := by
    intro nothing
    rw [if_pos nothing, isRange] at rangeEq
    cases rangeEq
  have lineEq : (front ++ left) ++ (right ++ back) = front ++ ((left ++ right) ++ back) := by
    simp only [List.append_assoc]
  have found := cursor.found
  have units := few _ found
  rw [lineEq] at found units
  have reads := textIn_onLine found units
  simp only [Text.unitLength_append] at units
  have frontColumns : Text.columnCount front = Text.unitLength front :=
    Text.saturate_of_lt (by omega)
  have wordColumns : Text.columnCount (front ++ (left ++ right)) =
      Text.unitLength (front ++ (left ++ right)) := by
    apply Text.saturate_of_lt
    simp only [Text.unitLength_append]
    omega
  have isRun : Text.IsRunAt ((front ++ left) ++ (right ++ back)) (front ++ left).byteLength
      front (left ++ right) back :=
    { lineEq := lineEq
      characters := isWord
      starts := Text.byteLength_le_of_isPrefix (List.prefix_append front left)
      finishes := by
        rw [← List.append_assoc]
        exact Text.byteLength_le_of_isPrefix (List.prefix_append _ right) }
  rw [if_neg nonempty, isRange, Option.some_inj] at rangeEq
  rw [← rangeEq] at reads
  have isWordAt : document.IsWordAt position range (front ++ left) (right ++ back) front
      (left ++ right) back :=
    { cursor := cursor
      longest := isRun.isLongestRunAt frontStops backStops
      nonempty := nonempty
      rangeEq := by rw [rangeEq, frontColumns, wordColumns]
      encloses := by
        rw [rangeEq, frontColumns, wordColumns, Range.contains_onLine_iff]
        simp only [Text.unitLength_append]
        omega
      reads := reads }
  refine ⟨_, _, _, _, _, isWordAt, ?_⟩
  intro column within
  rw [rangeEq, frontColumns, wordColumns, Range.contains_onLine_iff] at within
  rw [rangeEq]
  exact wordRangeAt?_of_columns found frontStops isWord nonempty backStops within.1 within.2

/-- A position finds no word exactly when its line does not exist or no word character stands next to
its cursor. A word that is found is the longest run of word characters around the cursor; its range is
on the line of the position, encloses the cursor, reads as the word, and is found from each of its
columns. -/
theorem wordRangeAt?_is_longest_run
    (document : Snapshot) (position : Position)
    (few : ∀ line, document.lineText? position.line = some line →
      Text.unitLength line < 2 ^ 32) :
    (document.wordRangeAt? position = none ↔
      document.text.count '\n' < position.line ∨
        ∃ before behind, document.IsCursor position before behind ∧
          (∀ character ∈ before.getLast?, Text.isWordCharacter character = false) ∧
          ∀ character ∈ behind.head?, Text.isWordCharacter character = false) ∧
      ∀ range, document.wordRangeAt? position = some range →
        ∃ before behind front word back,
          document.IsWordAt position range before behind front word back ∧
            ∀ column, range.contains ⟨position.line, column⟩ = true →
              document.wordRangeAt? ⟨position.line, column⟩ = some range :=
  ⟨wordRangeAt?_eq_none_iff, fun _ isRange => exists_isWordAt isRange few⟩

/-- A line whose word has letters of two, three and four bytes, the last of them of two units. -/
def wideWord : Snapshot :=
  ⟨⟨['a'], Eq.refl true⟩, [], 1, "- é中𝐱_1+\n".toList⟩

/-- Column 5 is inside the letter of two units; the word is found from there as from its first
column. -/
theorem wideWord_is_longest_run :
    let range := Range.onLine 0 2 8
    (∀ line, wideWord.lineText? 0 = some line → Text.unitLength line < 2 ^ 32) ∧
      wideWord.wordRangeAt? ⟨0, 5⟩ = some range ∧
      (∃ before behind front word back,
        wideWord.IsWordAt ⟨0, 5⟩ range before behind front word back) ∧
      wideWord.wordRangeAt? ⟨0, 2⟩ = some range ∧
      wideWord.textIn range = "é中𝐱_1".toList := by
  intro range
  have fits : Text.FitsLines wideWord.text := Text.FitsPositions.fitsLines (by decide)
  have few : ∀ line, wideWord.lineText? 0 = some line → Text.unitLength line < 2 ^ 32 :=
    fits.units 0
  have isRange : wideWord.wordRangeAt? ⟨0, 5⟩ = some range := by decide +kernel
  obtain ⟨-, found⟩ := wordRangeAt?_is_longest_run wideWord ⟨0, 5⟩ few
  obtain ⟨before, behind, front, word, back, isWordAt, fromColumns⟩ := found range isRange
  exact ⟨few, isRange, ⟨before, behind, front, word, back, isWordAt⟩,
    fromColumns 2 (by decide), by decide +kernel⟩

end Snapshot

end CallHierarchy
