import CallHierarchy.Proofs.Text.Measure
import Mathlib.Order.Bounds.Defs

/-!
Boundaries of a text, and the two ways to get to one. A byte offset is taken back to the greatest
boundary that is not above it, which a search downwards finds too, and a column to the first boundary
with at least that many units before it, or to the end. A slice stands between two boundaries.
-/

namespace CallHierarchy.Text

theorem byteLength_pos
    {text : Text} (nonempty : text ≠ []) :
    0 < byteLength text := by
  cases text with
  | nil => exact absurd rfl nonempty
  | cons first rest =>
      have positive : 0 < first.utf8Size := Char.utf8Size_pos first
      rw [byteLength_cons]
      omega

theorem byteLength_le_of_isPrefix
    {beginning text : Text} (isBeginning : beginning <+: text) :
    byteLength beginning ≤ byteLength text := by
  obtain ⟨behind, rfl⟩ := isBeginning
  rw [byteLength_append]
  exact Nat.le_add_right _ _

theorem unitLength_le_of_isPrefix
    {beginning text : Text} (isBeginning : beginning <+: text) :
    unitLength beginning ≤ unitLength text := by
  obtain ⟨behind, rfl⟩ := isBeginning
  rw [unitLength_append]
  exact Nat.le_add_right _ _

/-- Of two beginnings of a text, the shorter one is a beginning of the longer one. -/
theorem exists_append_of_byteLength_le
    {before behind later rest : Text} (same : before ++ behind = later ++ rest)
    (notLonger : byteLength before ≤ byteLength later) :
    ∃ middle, later = before ++ middle ∧ behind = middle ++ rest := by
  rcases List.append_eq_append_iff.1 same with
    ⟨middle, laterEq, behindEq⟩ | ⟨middle, beforeEq, restEq⟩
  · exact ⟨middle, laterEq, behindEq⟩
  · by_cases nothing : middle = []
    · subst nothing
      exact ⟨[], by rw [beforeEq, List.append_nil, List.append_nil],
        by rw [restEq, List.nil_append, List.nil_append]⟩
    · have positive := byteLength_pos nothing
      rw [beforeEq, byteLength_append] at notLonger
      omega

/-- A text is cut in one way only at an offset. -/
theorem append_inj_of_byteLength_eq
    {before behind later rest : Text} (same : before ++ behind = later ++ rest)
    (sameLength : byteLength before = byteLength later) :
    before = later ∧ behind = rest := by
  obtain ⟨middle, laterEq, behindEq⟩ :=
    exists_append_of_byteLength_le same (Nat.le_of_eq sameLength)
  have nothing : middle = [] := by
    by_contra nonempty
    have positive := byteLength_pos nonempty
    rw [laterEq, byteLength_append] at sameLength
    omega
  rw [nothing, List.append_nil] at laterEq
  rw [nothing, List.nil_append] at behindEq
  exact ⟨laterEq.symm, behindEq⟩

/-! ## Byte offsets -/

theorem isBoundary_iff
    {text : Text} {offset : Nat} :
    text.isBoundary offset = true ↔
      ∃ before behind, text = before ++ behind ∧ byteLength before = offset := by
  rw [isBoundary, Option.isSome_iff_exists]
  constructor
  · rintro ⟨⟨before, behind⟩, split⟩
    exact ⟨before, behind, eq_append_of_splitAtByte? split⟩
  · rintro ⟨before, behind, rfl, rfl⟩
    exact ⟨(before, behind), splitAtByte?_append before behind⟩

theorem isBoundary_append
    (before behind : Text) :
    (before ++ behind).isBoundary (byteLength before) = true :=
  isBoundary_iff.2 ⟨before, behind, rfl, rfl⟩

theorem le_byteLength_of_isBoundary
    {text : Text} {offset : Nat} (boundary : text.isBoundary offset = true) :
    offset ≤ text.byteLength := by
  obtain ⟨before, behind, rfl, rfl⟩ := isBoundary_iff.1 boundary
  rw [byteLength_append]
  omega

theorem isBoundary_cons_iff
    {first : Char} {rest : Text} {offset : Nat} :
    isBoundary (first :: rest) offset = true ↔
      offset = 0 ∨ ∃ later, rest.isBoundary later = true ∧ offset = first.utf8Size + later := by
  simp only [isBoundary_iff]
  constructor
  · rintro ⟨before, behind, textEq, rfl⟩
    cases before with
    | nil => exact Or.inl rfl
    | cons head more =>
        rw [List.cons_append, List.cons.injEq] at textEq
        obtain ⟨rfl, restEq⟩ := textEq
        exact Or.inr ⟨byteLength more, ⟨more, behind, restEq, rfl⟩, rfl⟩
  · rintro (rfl | ⟨later, ⟨before, behind, rfl, rfl⟩, rfl⟩)
    · exact ⟨[], first :: rest, rfl, rfl⟩
    · exact ⟨first :: before, behind, rfl, rfl⟩

theorem isGreatest_floorBoundary
    (text : Text) (offset : Nat) :
    IsGreatest {boundary | text.isBoundary boundary = true ∧ boundary ≤ offset}
      (text.floorBoundary offset) := by
  induction text generalizing offset with
  | nil =>
      refine ⟨⟨isBoundary_append [] [], Nat.zero_le offset⟩, ?_⟩
      intro boundary within
      exact le_byteLength_of_isBoundary within.1
  | cons first rest inductionHypothesis =>
      have positive : 0 < first.utf8Size := Char.utf8Size_pos first
      by_cases fits : first.utf8Size ≤ offset
      · rw [floorBoundary, if_pos fits]
        obtain ⟨⟨isBoundary, within⟩, greatest⟩ :=
          inductionHypothesis (offset - first.utf8Size)
        refine ⟨⟨isBoundary_cons_iff.2 (Or.inr ⟨_, isBoundary, rfl⟩), by omega⟩, ?_⟩
        rintro boundary ⟨isBoundary, within⟩
        rcases isBoundary_cons_iff.1 isBoundary with rfl | ⟨later, isLater, rfl⟩
        · exact Nat.zero_le _
        · exact Nat.add_le_add_left (greatest ⟨isLater, by omega⟩) _
      · rw [floorBoundary, if_neg fits]
        refine ⟨⟨isBoundary_append [] (first :: rest), Nat.zero_le offset⟩, ?_⟩
        rintro boundary ⟨isBoundary, within⟩
        rcases isBoundary_cons_iff.1 isBoundary with rfl | ⟨later, _, rfl⟩
        · exact Nat.le_refl 0
        · omega

theorem floorBoundary_mono
    (text : Text) {offset later : Nat} (ordered : offset ≤ later) :
    text.floorBoundary offset ≤ text.floorBoundary later := by
  obtain ⟨⟨isBoundary, within⟩, _⟩ := isGreatest_floorBoundary text offset
  exact (isGreatest_floorBoundary text later).2 ⟨isBoundary, Nat.le_trans within ordered⟩

theorem exists_floorBoundary
    (text : Text) (offset : Nat) :
    ∃ before behind, text = before ++ behind ∧ byteLength before = text.floorBoundary offset :=
  isBoundary_iff.1 (isGreatest_floorBoundary text offset).1.1

theorem floorBoundary_min_byteLength
    (text : Text) (offset : Nat) :
    text.floorBoundary (min offset text.byteLength) = text.floorBoundary offset := by
  obtain ⟨⟨isBoundary, within⟩, _⟩ := isGreatest_floorBoundary text offset
  apply Nat.le_antisymm
  · exact floorBoundary_mono text (Nat.min_le_left _ _)
  · exact (isGreatest_floorBoundary text _).2
      ⟨isBoundary, Nat.le_min.2 ⟨within, le_byteLength_of_isBoundary isBoundary⟩⟩

/-- The search for a boundary from an offset downwards, one byte after the other. It fails when it
would have to go on below zero. -/
def boundaryFrom? (text : Text) : (offset : Nat) → Option Nat
  | 0 => if text.isBoundary 0 then some 0 else none
  | offset + 1 =>
      if text.isBoundary (offset + 1) then some (offset + 1) else boundaryFrom? text offset

theorem floorBoundary_of_isBoundary
    {text : Text} {offset : Nat} (boundary : text.isBoundary offset = true) :
    text.floorBoundary offset = offset := by
  obtain ⟨⟨_, within⟩, greatest⟩ := isGreatest_floorBoundary text offset
  exact Nat.le_antisymm within (greatest ⟨boundary, Nat.le_refl offset⟩)

/-- Inside a character, one byte less makes no difference. -/
theorem floorBoundary_succ_of_not_isBoundary
    {text : Text} {offset : Nat} (inside : text.isBoundary (offset + 1) = false) :
    text.floorBoundary (offset + 1) = text.floorBoundary offset := by
  obtain ⟨⟨isBoundary, within⟩, _⟩ := isGreatest_floorBoundary text (offset + 1)
  have lower : text.floorBoundary (offset + 1) ≠ offset + 1 := by
    intro same
    rw [same, inside] at isBoundary
    cases isBoundary
  have below : text.floorBoundary (offset + 1) ≤ offset := by omega
  exact Nat.le_antisymm ((isGreatest_floorBoundary text offset).2 ⟨isBoundary, below⟩)
    (floorBoundary_mono text (Nat.le_succ offset))

/-- The search does not get below zero, and ends at the greatest boundary that is not above. -/
theorem boundaryFrom?_eq
    (text : Text) (offset : Nat) :
    text.boundaryFrom? offset = some (text.floorBoundary offset) := by
  induction offset with
  | zero =>
      have atStart : text.isBoundary 0 = true := isBoundary_append [] text
      rw [boundaryFrom?, if_pos atStart, floorBoundary_of_isBoundary atStart]
  | succ offset inductionHypothesis =>
      cases boundary : text.isBoundary (offset + 1) with
      | true => rw [boundaryFrom?, if_pos boundary, floorBoundary_of_isBoundary boundary]
      | false =>
          rw [boundaryFrom?, boundary, floorBoundary_succ_of_not_isBoundary boundary]
          exact inductionHypothesis

/-- A slice is what stands between two places of the text. -/
theorem slice?_eq_some_iff
    {text part : Text} {start stop : Nat} :
    text.slice? start stop = some part ↔
      ∃ before behind, text = before ++ (part ++ behind) ∧ byteLength before = start ∧
        byteLength (before ++ part) = stop := by
  constructor
  · intro sliced
    rw [slice?] at sliced
    by_cases ordered : start ≤ stop
    · rw [if_pos ordered] at sliced
      obtain ⟨⟨before, tail⟩, first, rest⟩ := Option.bind_eq_some_iff.1 sliced
      obtain ⟨⟨middle, behind⟩, second, isPart⟩ := Option.bind_eq_some_iff.1 rest
      obtain rfl : middle = part := Option.some.inj isPart
      obtain ⟨textEq, startEq⟩ := eq_append_of_splitAtByte? first
      obtain ⟨tailEq, lengthEq⟩ := eq_append_of_splitAtByte? second
      refine ⟨before, behind, by rw [textEq, tailEq], startEq, ?_⟩
      rw [byteLength_append, startEq, lengthEq]
      omega
    · rw [if_neg ordered] at sliced
      cases sliced
  · rintro ⟨before, behind, rfl, rfl, rfl⟩
    rw [byteLength_append]
    exact slice?_append before part behind

theorem isBoundary_of_slice?
    {text part : Text} {start stop : Nat} (sliced : text.slice? start stop = some part) :
    text.isBoundary start = true ∧ text.isBoundary stop = true := by
  obtain ⟨before, behind, rfl, rfl, rfl⟩ := slice?_eq_some_iff.1 sliced
  refine ⟨isBoundary_append before _, ?_⟩
  rw [← List.append_assoc]
  exact isBoundary_append (before ++ part) behind

theorem exists_slice?
    {text : Text} {start stop : Nat} (ordered : start ≤ stop)
    (startBoundary : text.isBoundary start = true) (stopBoundary : text.isBoundary stop = true) :
    ∃ part, text.slice? start stop = some part := by
  obtain ⟨before, behind, textEq, rfl⟩ := isBoundary_iff.1 startBoundary
  obtain ⟨later, rest, laterEq, rfl⟩ := isBoundary_iff.1 stopBoundary
  obtain ⟨part, rfl, rfl⟩ := exists_append_of_byteLength_le (textEq.symm.trans laterEq) ordered
  exact ⟨part, slice?_eq_some_iff.2 ⟨before, rest, textEq, rfl, rfl⟩⟩

theorem slice?_of_isPrefix
    {text part beginning : Text} {start stop : Nat} (sliced : text.slice? start stop = some part)
    (isBeginning : beginning <+: part) :
    text.slice? start (start + byteLength beginning) = some beginning := by
  obtain ⟨before, behind, rfl, rfl, rfl⟩ := slice?_eq_some_iff.1 sliced
  obtain ⟨dropped, rfl⟩ := isBeginning
  refine slice?_eq_some_iff.2 ⟨before, dropped ++ behind, ?_, rfl, byteLength_append _ _⟩
  rw [List.append_assoc]

theorem unitLength_le_of_slice?
    {text part : Text} {start stop : Nat} (sliced : text.slice? start stop = some part) :
    unitLength part ≤ unitLength text := by
  obtain ⟨before, behind, rfl, _, _⟩ := slice?_eq_some_iff.1 sliced
  rw [unitLength_append, unitLength_append]
  omega

/-! ## Columns -/

/-- The first boundary of a line with at least `column` units before it, which is the end of
`before`, or the end of the line if there is none. -/
structure FirstAtColumn (line : Text) (column : Nat) (before behind : Text) : Prop where
  lineEq : line = before ++ behind
  reached : column ≤ unitLength before ∨ behind = []
  earlier : ∀ front back, line = front ++ back → byteLength front < byteLength before →
    unitLength front < column

/-- A column is taken to the first boundary that reaches it, or to the end of the line. -/
theorem exists_firstAtColumn
    (line : Text) (column : Nat) :
    ∃ before behind, FirstAtColumn line column before behind ∧
      line.columnOffset column = byteLength before := by
  induction line generalizing column with
  | nil =>
      refine ⟨[], [], ⟨rfl, Or.inr rfl, ?_⟩, by rw [columnOffset]; rfl⟩
      intro front back _ shorter
      exact absurd shorter (Nat.not_lt_zero _)
  | cons first rest inductionHypothesis =>
      cases column with
      | zero =>
          refine ⟨[], first :: rest, ⟨rfl, Or.inl (Nat.zero_le _), ?_⟩, rfl⟩
          intro front back _ shorter
          exact absurd shorter (Nat.not_lt_zero _)
      | succ column =>
          obtain ⟨before, behind, found, offsetEq⟩ :=
            inductionHypothesis (column + 1 - unitCount first)
          refine ⟨first :: before, behind, ⟨?_, ?_, ?_⟩, ?_⟩
          · rw [List.cons_append, ← found.lineEq]
          · rcases found.reached with enough | atEnd
            · left
              rw [unitLength_cons]
              omega
            · exact Or.inr atEnd
          · intro front back lineEq shorter
            cases front with
            | nil => exact Nat.succ_pos column
            | cons head more =>
                rw [List.cons_append, List.cons.injEq] at lineEq
                obtain ⟨rfl, restEq⟩ := lineEq
                simp only [byteLength_cons] at shorter
                have fewer := found.earlier more back restEq (by omega)
                rw [unitLength_cons]
                omega
          · rw [columnOffset, offsetEq, byteLength_cons]

/-- More units are not reached earlier. -/
theorem FirstAtColumn.byteLength_le
    {line before behind later rest : Text} {column wider : Nat}
    (found : FirstAtColumn line column before behind)
    (foundLater : FirstAtColumn line wider later rest) (ordered : column ≤ wider) :
    byteLength before ≤ byteLength later := by
  by_contra notBefore
  have fewer := found.earlier later rest foundLater.lineEq (Nat.lt_of_not_le notBefore)
  rcases foundLater.reached with enough | atEnd
  · omega
  · have within : byteLength before ≤ byteLength line :=
      byteLength_le_of_isPrefix ⟨behind, found.lineEq.symm⟩
    rw [foundLater.lineEq, atEnd, List.append_nil] at within
    exact notBefore within

theorem firstAtColumn_append
    (front back : Text) :
    FirstAtColumn (front ++ back) (unitLength front) front back where
  lineEq := rfl
  reached := Or.inl (Nat.le_refl _)
  earlier := by
    intro shorter rest lineEq fewerBytes
    obtain ⟨middle, rfl, _⟩ :=
      exists_append_of_byteLength_le lineEq.symm (Nat.le_of_lt fewerBytes)
    have nonempty : middle ≠ [] := by
      rintro rfl
      rw [List.append_nil] at fewerBytes
      exact Nat.lt_irrefl _ fewerBytes
    have positive := unitLength_pos nonempty
    rw [unitLength_append]
    omega

theorem FirstAtColumn.columnOffset_eq
    {line before behind : Text} {column : Nat} (found : FirstAtColumn line column before behind) :
    line.columnOffset column = byteLength before := by
  obtain ⟨other, rest, foundOther, offsetEq⟩ := exists_firstAtColumn line column
  rw [offsetEq]
  exact Nat.le_antisymm (foundOther.byteLength_le found (Nat.le_refl _))
    (found.byteLength_le foundOther (Nat.le_refl _))

/-- Where a place has exactly `column` units before it, so has the first one with at least as many. -/
theorem FirstAtColumn.unitLength_eq_iff
    {line before behind : Text} {column : Nat} (found : FirstAtColumn line column before behind) :
    unitLength before = column ↔ ∃ front back, line = front ++ back ∧ unitLength front = column := by
  constructor
  · intro exact
    exact ⟨before, behind, found.lineEq, exact⟩
  · rintro ⟨front, back, rfl, rfl⟩
    have sameLength : byteLength before = byteLength front :=
      found.columnOffset_eq.symm.trans (firstAtColumn_append front back).columnOffset_eq
    rw [(append_inj_of_byteLength_eq found.lineEq.symm sameLength).1]

theorem columnOffset_mono
    (line : Text) {column wider : Nat} (ordered : column ≤ wider) :
    line.columnOffset column ≤ line.columnOffset wider := by
  obtain ⟨before, behind, found, offsetEq⟩ := exists_firstAtColumn line column
  obtain ⟨later, rest, foundLater, laterEq⟩ := exists_firstAtColumn line wider
  rw [offsetEq, laterEq]
  exact found.byteLength_le foundLater ordered

theorem columnOffset_of_unitLength_le
    {line : Text} {column : Nat} (past : unitLength line ≤ column) :
    line.columnOffset column = byteLength line := by
  obtain ⟨before, behind, found, offsetEq⟩ := exists_firstAtColumn line column
  have atEnd : behind = [] := by
    rcases found.reached with enough | atEnd
    · by_contra nonempty
      have positive := unitLength_pos nonempty
      rw [found.lineEq, unitLength_append] at past
      omega
    · exact atEnd
  rw [offsetEq, found.lineEq, atEnd, List.append_nil]

end CallHierarchy.Text
