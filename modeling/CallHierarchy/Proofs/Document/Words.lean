import CallHierarchy.Index.Basic
import CallHierarchy.Proofs.Declaration.Ranges
import CallHierarchy.Proofs.Engine.GreedySites

/-!
Words under positions. A line of a document is a stretch of its text, and the word that touches a
position on it is found whole from any place between its characters. In a header line the name of
the declaration is such a word: a space stands before it and a blank or a brace behind it.
-/

namespace CallHierarchy

theorem toNat_lt_of_isNameCharacter
    {character : Char} (isName : isNameCharacter character = true) :
    character.toNat < 0x80 := by
  have upper : ∀ last : Char, character ≤ last → character.toNat ≤ last.toNat := fun _ below => below
  rcases (isNameCharacter_iff character).1 isName with ⟨_, below⟩ | ⟨_, below⟩ | ⟨_, below⟩ | rfl
  · exact Nat.lt_of_le_of_lt (upper _ below) (by decide)
  · exact Nat.lt_of_le_of_lt (upper _ below) (by decide)
  · exact Nat.lt_of_le_of_lt (upper _ below) (by decide)
  · decide

theorem isWordCharacter_of_isNameCharacter
    {character : Char} (isName : isNameCharacter character = true) :
    Text.isWordCharacter character = true := by
  rw [Text.isWordCharacter, Text.isAlphanumeric, if_pos (toNat_lt_of_isNameCharacter isName)]
  exact isName

theorem isWordCharacter_of_isBlank
    {character : Char} (blank : Text.isBlank character = true) :
    Text.isWordCharacter character = false := by
  have codes : character.toNat ∈ List.range' 0x09 5 ++ List.range' 0x2000 11 ++
      [0x20, 0x85, 0xA0, 0x1680, 0x2028, 0x2029, 0x202F, 0x205F, 0x3000] := by
    simp only [Text.isBlank, Bool.or_eq_true, Bool.and_eq_true, decide_eq_true_eq, beq_iff_eq]
      at blank
    simp only [List.mem_append, List.mem_range'_1, List.mem_cons, List.not_mem_nil, or_false]
    omega
  have outside : ∀ code ∈ List.range' 0x09 5 ++ List.range' 0x2000 11 ++
      [0x20, 0x85, 0xA0, 0x1680, 0x2028, 0x2029, 0x202F, 0x205F, 0x3000],
      Text.isWordCharacter (Char.ofNat code) = false := by
    decide +kernel
  have isOutside := outside character.toNat codes
  rwa [Char.ofNat_toNat] at isOutside

theorem unitLength_of_isName
    {text : Text} (characters : ∀ character ∈ text, isNameCharacter character = true) :
    Text.unitLength text = text.length := by
  induction text with
  | nil => rfl
  | cons first rest inductionHypothesis =>
      obtain ⟨firstIsName, restAreName⟩ := List.forall_mem_cons.1 characters
      have small := toNat_lt_of_isNameCharacter firstIsName
      have oneUnit : Text.unitCount first = 1 := if_pos (by omega)
      rw [Text.unitLength_cons, inductionHypothesis restAreName, oneUnit, List.length_cons,
        Nat.add_comm]

section Word

variable {front left right behind : Text}

theorem finalWord_append
    (frontStops : ∀ character ∈ front.getLast?, Text.isWordCharacter character = false)
    (leftWord : ∀ character ∈ left, Text.isWordCharacter character = true) :
    Snapshot.finalWord (front ++ left) = left := by
  have reversedWord : ∀ character ∈ left.reverse, Text.isWordCharacter character = true :=
    fun character member => leftWord character (List.mem_reverse.1 member)
  have reversedStops : ∀ character ∈ front.reverse.head?,
      Text.isWordCharacter character = false := by
    rw [List.head?_reverse]
    exact frontStops
  rw [Snapshot.finalWord, List.reverse_append, List.takeWhile_append_of_pos reversedWord,
    (takeWhile_dropWhile_of_head? reversedStops).1, List.append_nil, List.reverse_reverse]

theorem initialWord_append
    (rightWord : ∀ character ∈ right, Text.isWordCharacter character = true)
    (behindStops : ∀ character ∈ behind.head?, Text.isWordCharacter character = false) :
    Snapshot.initialWord (right ++ behind) = right := by
  rw [Snapshot.initialWord, List.takeWhile_append_of_pos rightWord,
    (takeWhile_dropWhile_of_head? behindStops).1, List.append_nil]

/-- With the cursor in it or at one of its ends, a word is found with all its characters. -/
theorem wordRangeAt?_of_cursor
    {document : Snapshot} {number column : Nat}
    (found : document.lineText? number = some (front ++ left ++ (right ++ behind)))
    (cursor : (front ++ left ++ (right ++ behind)).columnOffset column = (front ++ left).byteLength)
    (frontStops : ∀ character ∈ front.getLast?, Text.isWordCharacter character = false)
    (word : ∀ character ∈ left ++ right, Text.isWordCharacter character = true)
    (nonempty : left ++ right ≠ [])
    (behindStops : ∀ character ∈ behind.head?, Text.isWordCharacter character = false) :
    document.wordRangeAt? ⟨number, column⟩ =
      some (Range.onLine number (Text.columnCount front)
        (Text.columnCount (front ++ (left ++ right)))) := by
  have leftEq : Snapshot.finalWord (front ++ left) = left :=
    finalWord_append frontStops fun character member =>
      word character (List.mem_append_left right member)
  have rightEq : Snapshot.initialWord (right ++ behind) = right :=
    initialWord_append (fun character member =>
      word character (List.mem_append_right left member)) behindStops
  have frontEq : (front ++ left).take ((front ++ left).length - left.length) = front := by
    rw [List.length_append, Nat.add_sub_cancel, List.take_left]
  have someCharacter : (left.isEmpty && right.isEmpty) = false := by
    rw [Ne, List.append_eq_nil_iff] at nonempty
    rwa [← Bool.not_eq_true, Bool.and_eq_true, List.isEmpty_iff, List.isEmpty_iff]
  rw [Snapshot.wordRangeAt?, found]
  dsimp only [Option.bind_eq_bind, Option.bind_some]
  rw [cursor, Text.splitAtByte?_append]
  dsimp only [Option.bind_some]
  rw [leftEq, rightEq, someCharacter, frontEq, List.append_assoc]
  rfl

/-- With no word character on either side of the cursor, no word is found. -/
theorem wordRangeAt?_eq_none_of_cursor
    {document : Snapshot} {number column : Nat}
    (found : document.lineText? number = some (front ++ behind))
    (cursor : (front ++ behind).columnOffset column = front.byteLength)
    (frontStops : ∀ character ∈ front.getLast?, Text.isWordCharacter character = false)
    (behindStops : ∀ character ∈ behind.head?, Text.isWordCharacter character = false) :
    document.wordRangeAt? ⟨number, column⟩ = none := by
  have noLeft : Snapshot.finalWord (front ++ []) = [] := finalWord_append frontStops nofun
  have noRight : Snapshot.initialWord ([] ++ behind) = [] := initialWord_append nofun behindStops
  rw [List.append_nil] at noLeft
  rw [List.nil_append] at noRight
  rw [Snapshot.wordRangeAt?, found]
  dsimp only [Option.bind_eq_bind, Option.bind_some]
  rw [cursor, Text.splitAtByte?_append]
  dsimp only [Option.bind_some]
  rw [noLeft, noRight]
  rfl

/-- From every column of a word, both ends included, the word is found: also from a column inside a
character of two units, which has its cursor behind that character. -/
theorem wordRangeAt?_of_columns
    {document : Snapshot} {number column : Nat} {word : Text}
    (found : document.lineText? number = some (front ++ (word ++ behind)))
    (frontStops : ∀ character ∈ front.getLast?, Text.isWordCharacter character = false)
    (isWord : ∀ character ∈ word, Text.isWordCharacter character = true) (nonempty : word ≠ [])
    (behindStops : ∀ character ∈ behind.head?, Text.isWordCharacter character = false)
    (start : Text.unitLength front ≤ column) (finish : column ≤ Text.unitLength (front ++ word)) :
    document.wordRangeAt? ⟨number, column⟩ =
      some (Range.onLine number (Text.columnCount front) (Text.columnCount (front ++ word))) := by
  obtain ⟨before, rest, cursor, cursorEq⟩ :=
    Text.exists_firstAtColumn (front ++ (word ++ behind)) column
  have notBefore : front.byteLength ≤ before.byteLength :=
    (Text.firstAtColumn_append front (word ++ behind)).byteLength_le cursor start
  obtain ⟨left, rfl, wordBehindEq⟩ :=
    Text.exists_append_of_byteLength_le cursor.lineEq notBefore
  have wordEnd : Text.FirstAtColumn (front ++ (word ++ behind)) (Text.unitLength (front ++ word))
      (front ++ word) behind := by
    rw [← List.append_assoc]
    exact Text.firstAtColumn_append (front ++ word) behind
  have notBehind := cursor.byteLength_le wordEnd finish
  rw [Text.byteLength_append, Text.byteLength_append, Nat.add_le_add_iff_left] at notBehind
  obtain ⟨right, rfl, rfl⟩ := Text.exists_append_of_byteLength_le wordBehindEq.symm notBehind
  rw [cursor.lineEq] at found cursorEq
  exact wordRangeAt?_of_cursor found cursorEq frontStops isWord nonempty behindStops

end Word

/-- What stands on a line is read back from its columns. -/
theorem Snapshot.textIn_onLine
    {document : Snapshot} {number : Nat} {front middle behind : Text}
    (found : document.lineText? number = some (front ++ (middle ++ behind)))
    (units : Text.unitLength (front ++ (middle ++ behind)) < 2 ^ 32) :
    document.textIn (Range.onLine number (Text.columnCount front)
      (Text.columnCount (front ++ middle))) = middle := by
  obtain ⟨head, line, rest, isLine, lineText⟩ := Text.exists_isLine_of_lineText? found
  simp only [Text.unitLength_append] at units
  have frontColumns : Text.columnCount front = Text.unitLength front :=
    Text.saturate_of_lt (by omega)
  have middleColumns : Text.columnCount (front ++ middle) = Text.unitLength (front ++ middle) := by
    apply Text.saturate_of_lt
    rw [Text.unitLength_append]
    omega
  rw [frontColumns, middleColumns]
  exact Snapshot.textIn_between isLine lineText isLine
    (lineText.trans (List.append_assoc _ _ _).symm) (List.append_assoc _ _ _).symm

section NameOnLine

variable {document : Snapshot} {number column : Nat} {front name behind : Text}
  (found : document.lineText? number = some (front ++ (name ++ behind))) (named : IsName name)
  (frontStops : ∀ character ∈ front.getLast?, Text.isWordCharacter character = false)
  (behindStops : ∀ character ∈ behind.head?, Text.isWordCharacter character = false)
  (start : Text.unitLength front ≤ column)
  (finish : column ≤ Text.unitLength front + name.length)
include found named frontStops behindStops start finish

/-- From any column of a name on its line, the word has the columns of the name. -/
theorem wordRangeAt?_of_name :
    document.wordRangeAt? ⟨number, column⟩ =
      some (Range.onLine number (Text.columnCount front) (Text.columnCount (front ++ name))) := by
  have isWord : ∀ character ∈ name, Text.isWordCharacter character = true := fun character member =>
    isWordCharacter_of_isNameCharacter (named.characters character member)
  have within : column ≤ Text.unitLength (front ++ name) := by
    rwa [Text.unitLength_append, unitLength_of_isName named.characters]
  exact wordRangeAt?_of_columns found frontStops isWord named.nonempty behindStops start within

/-- From any column of a name on its line, the word is the name. -/
theorem wordAt?_of_name
    (fits : Text.FitsLines document.text) :
    SyntaxIndex.wordAt? document ⟨number, column⟩ = some name := by
  rw [SyntaxIndex.wordAt?,
    wordRangeAt?_of_name found named frontStops behindStops start finish, Option.map_some,
    Snapshot.textIn_onLine found (fits.units _ _ found)]

end NameOnLine

namespace SyntaxTree

variable {keyword : Keyword} {id : TreeId} {document : Snapshot} {declaration : Declaration}

/-- In the line of its header, the name of a declaration stands between characters that are not of
words, and its range counts the units before it. -/
theorem exists_name_in_header
    (fits : Text.FitsLines document.text)
    (declared : declaration ∈ (parse keyword id document).declarations) :
    ∃ number front behind,
      document.lineText? number = some (front ++ (declaration.name ++ behind)) ∧
      (∀ character ∈ front.getLast?, Text.isWordCharacter character = false) ∧
      (∀ character ∈ behind.head?, Text.isWordCharacter character = false) ∧
      declaration.nameRange = Range.onLine number (Text.unitLength front)
        (Text.unitLength front + declaration.name.length) := by
  have nameUnits := unitLength_of_isName (isName_of_mem_parse declared).characters
  obtain ⟨block, member, rfl⟩ := mem_declarations_parse declared
  obtain ⟨head, header, body, closing, rest, stands⟩ := exists_blockStands fits.lines member
  obtain ⟨blanks, behind, headerEq, _, _, _, areBlank⟩ := stands.named
  refine ⟨block.first, keyword.text ++ [' '], blanks ++ '\x7b' :: behind, ?_, ?_, ?_, ?_⟩
  · rw [List.append_assoc, List.singleton_append]
    exact stands.opens.lineText?_eq.trans (congrArg some headerEq)
  · intro character isLast
    rw [List.getLast?_concat] at isLast
    cases isLast
    decide
  · intro character isHead
    cases blanks with
    | nil =>
        cases isHead
        decide
    | cons first more =>
        obtain rfl : first = character := Option.some.inj isHead
        exact isWordCharacter_of_isBlank (areBlank first List.mem_cons_self)
  · have columns : Text.unitLength (keyword.text ++ ' ' :: block.name) =
        Text.unitLength (keyword.text ++ [' ']) + Text.unitLength block.name := by
      rw [← Text.unitLength_append, List.append_assoc, List.singleton_append]
    rw [stands.nameRange_eq fits, columns]
    exact congrArg (fun units => Range.onLine _ _ (_ + units)) nameUnits

/-- From every position on the name of a declaration, both ends included, the word is the name, and
it is found at the range of the name. -/
theorem word_of_contains
    (fits : Text.FitsPositions document.text)
    (declared : declaration ∈ (parse keyword id document).declarations)
    {position : Position} (within : declaration.nameRange.contains position = true) :
    document.wordRangeAt? position = some declaration.nameRange ∧
      SyntaxIndex.wordAt? document position = some declaration.name := by
  obtain ⟨number, front, behind, found, frontStops, behindStops, rangeEq⟩ :=
    exists_name_in_header fits.fitsLines declared
  have named := isName_of_mem_parse declared
  obtain ⟨line, column⟩ := position
  simp only [rangeEq, Range.contains, Range.onLine, Position.atOrBefore, Bool.and_eq_true,
    Bool.or_eq_true, decide_eq_true_eq, beq_iff_eq] at within
  obtain rfl : line = number := by omega
  constructor
  · have units := fits.fitsLines.units _ _ found
    simp only [Text.unitLength_append, unitLength_of_isName named.characters] at units
    have frontColumns : Text.columnCount front = Text.unitLength front :=
      Text.saturate_of_lt (by omega)
    have nameColumns : Text.columnCount (front ++ declaration.name) =
        Text.unitLength front + declaration.name.length := by
      rw [Text.columnCount, Text.unitLength_append, unitLength_of_isName named.characters,
        Text.saturate_of_lt (by omega)]
    rw [wordRangeAt?_of_name found named frontStops behindStops (by omega) (by omega),
      frontColumns, nameColumns, rangeEq]
  · exact wordAt?_of_name found named frontStops behindStops (by omega) (by omega) fits.fitsLines

end SyntaxTree

end CallHierarchy
