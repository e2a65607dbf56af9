import CallHierarchy.Proofs.Document.Clamping

/-!
Slices of a document. A range takes what stands between the offsets of its two ends, and both ends
are places to cut, whether the positions exist or not: no slice fails. Ranges that meet in a position
cut adjacent slices, and a range that ends before its start cuts nothing.
-/

namespace CallHierarchy

namespace Snapshot

variable (document : Snapshot) {first middle last : Position}

theorem isBoundary_offsetAt (position : Position) :
    document.text.isBoundary (document.offsetAt position) = true :=
  Text.isBoundary_iff.2 (LineIndex.exists_offset_eq document.text position)

/-- What stands before a range, in it and behind it. -/
theorem exists_textIn_eq
    (ordered : first.atOrBefore last = true) :
    ∃ before behind, document.text = before ++ (document.textIn ⟨first, last⟩ ++ behind) ∧
      before.byteLength = document.offsetAt first ∧
      (before ++ document.textIn ⟨first, last⟩).byteLength = document.offsetAt last := by
  obtain ⟨before, behind, textEq, start⟩ := LineIndex.exists_offset_eq document.text first
  obtain ⟨later, rest, laterEq, finish⟩ := LineIndex.exists_offset_eq document.text last
  have notLonger : before.byteLength ≤ later.byteLength := by
    rw [start, finish]
    exact LineIndex.offset_mono document.text ordered
  obtain ⟨between, rfl, rfl⟩ :=
    Text.exists_append_of_byteLength_le (textEq.symm.trans laterEq) notLonger
  have inRange : document.textIn ⟨first, last⟩ = between :=
    textIn_of_offsets textEq start.symm finish.symm
  rw [inRange]
  exact ⟨before, rest, textEq, start, finish⟩

/-- The slice between the offsets of two positions in order does not fail. -/
theorem slice?_offsetAt
    (ordered : first.atOrBefore last = true) :
    document.text.slice? (document.offsetAt first) (document.offsetAt last) =
      some (document.textIn ⟨first, last⟩) := by
  obtain ⟨before, behind, textEq, start, finish⟩ := document.exists_textIn_eq ordered
  have cut := Text.slice?_append before (document.textIn ⟨first, last⟩) behind
  rwa [← textEq, ← Text.byteLength_append, start, finish] at cut

theorem textIn_append
    (firstMiddle : first.atOrBefore middle = true) (middleLast : middle.atOrBefore last = true) :
    document.textIn ⟨first, middle⟩ ++ document.textIn ⟨middle, last⟩ =
      document.textIn ⟨first, last⟩ := by
  obtain ⟨before, rest, textEq, start, meeting⟩ := document.exists_textIn_eq firstMiddle
  obtain ⟨longer, behind, longerEq, sameMeeting, finish⟩ := document.exists_textIn_eq middleLast
  have same : (before ++ document.textIn ⟨first, middle⟩) ++ rest =
      longer ++ (document.textIn ⟨middle, last⟩ ++ behind) := by
    rw [List.append_assoc, ← textEq, ← longerEq]
  obtain ⟨longerIs, restEq⟩ :=
    Text.append_inj_of_byteLength_eq same (meeting.trans sameMeeting.symm)
  have wholeEq : document.text = before ++
      ((document.textIn ⟨first, middle⟩ ++ document.textIn ⟨middle, last⟩) ++ behind) := by
    rw [List.append_assoc, ← restEq, ← textEq]
  symm
  apply textIn_of_offsets wholeEq start.symm
  rw [← List.append_assoc, longerIs, finish]

theorem textIn_of_reversed
    (ordered : first.atOrBefore last = true) :
    document.textIn ⟨last, first⟩ = [] := by
  obtain ⟨before, behind, textEq, start⟩ := LineIndex.exists_offset_eq document.text last
  have notLater : document.offsetAt first ≤ document.offsetAt last :=
    LineIndex.offset_mono document.text ordered
  have nothing := Text.slice?_append before [] behind
  rw [List.nil_append, ← textEq, start, Text.byteLength_nil, Nat.add_zero] at nothing
  rw [textIn]
  dsimp only
  rw [Nat.max_eq_right notLater]
  exact congrArg (Option.getD · []) nothing

/-- For three positions in order, which need not exist: their offsets are boundaries in the same
order, the text of a range is the source from the one offset to the other, the texts of two ranges
that meet make up the text of the whole range, and the range that goes backwards is empty. -/
theorem ranges_slice_consistently
    (firstMiddle : first.atOrBefore middle = true) (middleLast : middle.atOrBefore last = true) :
    (∀ position, document.text.isBoundary (document.offsetAt position) = true ∧
        document.offsetAt position ≤ document.text.byteLength) ∧
      document.offsetAt first ≤ document.offsetAt middle ∧
      document.offsetAt middle ≤ document.offsetAt last ∧
      document.text.slice? (document.offsetAt first) (document.offsetAt last) =
        some (document.textIn ⟨first, last⟩) ∧
      (∃ before behind, document.text = before ++ (document.textIn ⟨first, last⟩ ++ behind) ∧
        before.byteLength = document.offsetAt first ∧
        (before ++ document.textIn ⟨first, last⟩).byteLength = document.offsetAt last) ∧
      document.textIn ⟨first, middle⟩ ++ document.textIn ⟨middle, last⟩ =
        document.textIn ⟨first, last⟩ ∧
      document.textIn ⟨last, first⟩ = [] := by
  have firstLast : first.atOrBefore last = true :=
    Position.atOrBefore_trans firstMiddle middleLast
  refine ⟨?_, LineIndex.offset_mono _ firstMiddle, LineIndex.offset_mono _ middleLast,
    document.slice?_offsetAt firstLast, document.exists_textIn_eq firstLast,
    document.textIn_append firstMiddle middleLast, document.textIn_of_reversed firstLast⟩
  intro position
  exact ⟨document.isBoundary_offsetAt position,
    LineIndex.offset_le_byteLength document.text position⟩

/-- A document whose lines have terminators of both kinds, and characters of one to four bytes. -/
def ofMixedWidths : Snapshot :=
  ⟨⟨['a'], Eq.refl true⟩, [], 1, LineIndex.mixedWidths⟩

/-- The first position is behind the text of its line, the second inside a character of two units and
the third past the last line. -/
theorem ofMixedWidths_slices_consistently :
    let first : Position := ⟨0, 9⟩
    let middle : Position := ⟨2, 2⟩
    let last : Position := ⟨7, 0⟩
    first.atOrBefore middle = true ∧ middle.atOrBefore last = true ∧
      ofMixedWidths.offsetAt first = 3 ∧ ofMixedWidths.offsetAt middle = 13 ∧
      ofMixedWidths.offsetAt last = 15 ∧
      ofMixedWidths.text.slice? 3 15 = some (ofMixedWidths.textIn ⟨first, last⟩) ∧
      ofMixedWidths.textIn ⟨first, middle⟩ ++ ofMixedWidths.textIn ⟨middle, last⟩ =
        ofMixedWidths.textIn ⟨first, last⟩ ∧
      ofMixedWidths.textIn ⟨last, first⟩ = [] := by
  intro first middle last
  have firstMiddle : first.atOrBefore middle = true := by decide
  have middleLast : middle.atOrBefore last = true := by decide
  have start : ofMixedWidths.offsetAt first = 3 := by decide
  have meeting : ofMixedWidths.offsetAt middle = 13 := by decide
  have finish : ofMixedWidths.offsetAt last = 15 := by decide
  obtain ⟨-, -, -, sliced, -, joined, empty⟩ :=
    ofMixedWidths.ranges_slice_consistently firstMiddle middleLast
  rw [start, finish] at sliced
  exact ⟨firstMiddle, middleLast, start, meeting, finish, sliced, joined, empty⟩

end Snapshot

end CallHierarchy
