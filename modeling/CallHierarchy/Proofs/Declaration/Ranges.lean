import CallHierarchy.Proofs.Declaration.Grammar
import CallHierarchy.Proofs.Document.LinePlaces

/-!
The ranges of a declaration and the text that they stand for. A block is found in the text of its
document as a header line, whole lines behind it, and a closing line. The ranges of the declaration
that it makes are nested in this order, and they read as the name, as everything from the keyword to
the closing brace, and as the lines in between, whatever the terminators and however many bytes or
units the characters take.
-/

namespace CallHierarchy

/-- A block in the text of its document: its header line and its closing line, the lines of the body
between them, and what stands before and behind. -/
structure BlockStands (keyword : Keyword) (text : Text) (block : Block)
    (head header body closing rest : Text) : Prop where
  opens : Text.IsLine text block.first head header ('\n' :: (body ++ (closing ++ rest)))
  named : IsHeader keyword (Text.dropFinal '\r' header) block.name
  closes : Text.IsLine text block.last (head ++ (header ++ '\n' :: body)) closing rest
  closingText : Text.dropFinal '\r' closing = ['\x7d']

/-- Every block of a document stands somewhere in its text. -/
theorem exists_blockStands
    {keyword : Keyword} {document : Snapshot} {block : Block}
    (fewLines : document.text.count '\n' + 1 < 2 ^ 32)
    (member : block ∈ (SyntaxTree.blocks keyword document).closed) :
    ∃ head header body closing rest,
      BlockStands keyword document.text block head header body closing rest := by
  have parsed := SyntaxTree.blocksFrom_closed keyword fewLines
  obtain ⟨headerText, headerFound, isHeader⟩ := parsed.opens block member
  have closesFirst := parsed.closes block member
  obtain ⟨head, header, more, opens, headerEq⟩ := Text.exists_isLine_of_lineText? headerFound
  obtain ⟨laterHead, closing, rest, closes, closingText⟩ :=
    Text.exists_isLine_of_lineText? closesFirst.closes
  obtain ⟨behind, rfl⟩ := opens.exists_feed
    (Nat.lt_of_lt_of_le closesFirst.after closes.number_le)
  -- The header and its line feed make up whole lines, and the closing line comes behind them.
  have same : (head ++ (header ++ ['\n'])) ++ behind = laterHead ++ (closing ++ rest) := by
    rw [← closes.textEq, opens.textEq]
    simp only [List.append_assoc, List.singleton_append]
  have fewer : (head ++ (header ++ ['\n'])).count '\n' ≤ laterHead.count '\n' := by
    rw [opens.count_with_feed, closes.numbered]
    exact closesFirst.after
  obtain ⟨body, rfl, rfl⟩ :=
    Text.exists_append_of_count_le same (Text.lastLine_with_feed head header) fewer
  have laterHeadEq : head ++ (header ++ ['\n']) ++ body = head ++ (header ++ '\n' :: body) := by
    simp only [List.append_assoc, List.singleton_append]
  exact ⟨head, header, body, closing, rest,
    { opens := opens
      named := headerEq ▸ isHeader
      closes := laterHeadEq ▸ closes
      closingText := closingText }⟩

namespace BlockStands

variable {keyword : Keyword} {text : Text} {block : Block} {head header body closing rest : Text}

theorem linesCut
    (stands : BlockStands keyword text block head header body closing rest) :
    LinesCut text (block.first + 1) block.last (head ++ (header ++ ['\n'])) body
      (closing ++ rest) where
  textEq := by
    rw [stands.opens.textEq]
    simp only [List.append_assoc, List.singleton_append]
  headStart := Text.lastLine_with_feed head header
  bodyStart := by
    have starts := stands.closes.starts
    rwa [← List.singleton_append, ← List.append_assoc header, ← List.append_assoc head] at starts
  headCount := stands.opens.count_with_feed
  bodyCount := by
    have numbered := stands.closes.numbered
    rwa [← List.singleton_append, ← List.append_assoc header, ← List.append_assoc head] at numbered

end BlockStands

/-- The ranges of a declaration in their order: the name in the header, then the body, and both in the
full range. -/
structure Declaration.Nested (declaration : Declaration) : Prop where
  fullStart : declaration.fullRange.start.atOrBefore declaration.nameRange.start = true
  name : declaration.nameRange.start.atOrBefore declaration.nameRange.finish = true
  bodyStart : declaration.nameRange.finish.atOrBefore declaration.bodyRange.start = true
  body : declaration.bodyRange.start.atOrBefore declaration.bodyRange.finish = true
  fullFinish : declaration.bodyRange.finish.atOrBefore declaration.fullRange.finish = true

/-- What the ranges of a declaration read as. The full range goes from the keyword to the closing
brace, and the body is what stands between the line feed of the header line and the closing line. -/
structure Declaration.ReadsAs (keyword : Keyword) (document : Snapshot) (declaration : Declaration)
    (head header body closing rest : Text) : Prop where
  stands : BlockStands keyword document.text declaration.block head header body closing rest
  startsWith : keyword.text ++ ' ' :: declaration.name <+: header
  nameText : document.textIn declaration.nameRange = declaration.name
  fullText : document.textIn declaration.fullRange = header ++ '\n' :: (body ++ ['\x7d'])
  bodyText : document.textIn declaration.bodyRange = body
  noClosing : ∀ number, (LineIndex.ofText body).lineText? body number ≠ some ['\x7d']

theorem Declaration.nested_ofBlock
    (keyword : Keyword) (uri : Uri) (id : TreeId) {block : Block}
    (opens : block.first < block.last) (small : block.last < 2 ^ 32) :
    (Declaration.ofBlock keyword uri id block).Nested := by
  have bodyLine : Text.saturate (block.first + 1) = block.first + 1 :=
    Text.saturate_of_lt (by omega)
  constructor
  · simp [ofBlock, Range.onLine, Position.atOrBefore]
  · have columns (start length : Nat) :
        Text.saturate start ≤ Text.saturate (Text.saturate start + length) := by
      simp only [Text.saturate]
      omega
    simp only [ofBlock, Range.onLine, Position.atOrBefore, Nat.lt_irrefl, decide_false,
      Bool.false_or, beq_self_eq_true, Bool.true_and]
    exact decide_eq_true (columns _ _)
  · simp [ofBlock, Range.onLine, Position.atOrBefore, bodyLine]
  · have ordered : block.first + 1 < block.last ∨ block.first + 1 = block.last := by omega
    simpa [ofBlock, Position.atOrBefore, bodyLine] using ordered
  · simp [ofBlock, Position.atOrBefore]

/-- The name stands behind the keyword and a space; its columns count units. -/
theorem BlockStands.nameRange_eq
    {keyword : Keyword} {text : Text} {block : Block} {head header body closing rest : Text}
    (fits : Text.FitsLines text)
    (stands : BlockStands keyword text block head header body closing rest) (uri : Uri)
    (id : TreeId) :
    (Declaration.ofBlock keyword uri id block).nameRange =
      Range.onLine block.first (Text.unitLength (keyword.text ++ [' ']))
        (Text.unitLength (keyword.text ++ ' ' :: block.name)) := by
  obtain ⟨blanks, behind, headerEq, _⟩ := stands.named
  have units := stands.opens.unitLength_lt fits
  have spaceUnit : Text.unitCount ' ' = 1 := by decide
  simp only [headerEq, Text.unitLength_append, Text.unitLength_cons, spaceUnit] at units
  have keywordColumns : Text.columnCount keyword.text = Text.unitLength keyword.text :=
    Text.saturate_of_lt (by omega)
  have nameColumns : Text.columnCount block.name = Text.unitLength block.name :=
    Text.saturate_of_lt (by omega)
  simp only [Declaration.ofBlock, Text.unitLength_append, Text.unitLength_cons,
    Text.unitLength_nil, spaceUnit, keywordColumns, nameColumns]
  rw [Text.saturate_of_lt (by omega), Text.saturate_of_lt (by omega), Nat.add_assoc, Nat.add_zero]

section ParsedDocument

variable {keyword : Keyword} {id : TreeId} {document : Snapshot} {declaration : Declaration}

theorem nested_of_mem_parse
    (fewLines : document.text.count '\n' + 1 < 2 ^ 32)
    (declared : declaration ∈ (SyntaxTree.parse keyword id document).declarations) :
    declaration.Nested := by
  obtain ⟨block, member, rfl⟩ := SyntaxTree.mem_declarations_parse declared
  obtain ⟨head, header, body, closing, rest, stands⟩ := exists_blockStands fewLines member
  have lastEq := stands.linesCut.high_eq
  have within := stands.closes.number_le
  exact Declaration.nested_ofBlock keyword document.uri id (by omega) (by omega)

theorem exists_readsAs
    (fits : Text.FitsLines document.text)
    (declared : declaration ∈ (SyntaxTree.parse keyword id document).declarations) :
    ∃ head header body closing rest,
      declaration.ReadsAs keyword document head header body closing rest := by
  obtain ⟨block, member, rfl⟩ := SyntaxTree.mem_declarations_parse declared
  obtain ⟨head, header, body, closing, rest, stands⟩ := exists_blockStands fits.lines member
  obtain ⟨blanks, behind, headerEq, _⟩ := stands.named
  have closesFirst := (SyntaxTree.blocksFrom_closed keyword fits.lines).closes block member
  have bodyLine : Text.saturate (block.first + 1) = block.first + 1 := by
    have opens := closesFirst.after
    have within := stands.closes.number_le
    have lines := fits.lines
    exact Text.saturate_of_lt (by omega)
  have keywordText : Text.dropFinal '\r' header =
      (keyword.text ++ [' ']) ++ (block.name ++ (blanks ++ '\x7b' :: behind)) := by
    rw [headerEq, List.append_assoc, List.singleton_append]
  have namedText : Text.dropFinal '\r' header =
      (keyword.text ++ ' ' :: block.name) ++ (blanks ++ '\x7b' :: behind) := by
    rw [headerEq, List.append_assoc, List.cons_append]
  have headerStart : Text.dropFinal '\r' header = [] ++ Text.dropFinal '\r' header := rfl
  have closingStart : Text.dropFinal '\r' closing = [] ++ ['\x7d'] := stands.closingText
  have closingEnd : Text.dropFinal '\r' closing = ['\x7d'] ++ [] := stands.closingText
  refine ⟨head, header, body, closing, rest, stands, ?_, ?_, ?_, ?_, ?_⟩
  · have isPrefix := Text.dropFinal_isPrefix '\r' header
    rw [namedText] at isPrefix
    exact (List.prefix_append _ _).trans isPrefix
  · rw [stands.nameRange_eq fits]
    apply Snapshot.textIn_between stands.opens keywordText stands.opens namedText
    simp only [List.append_assoc, List.singleton_append]
    rfl
  · apply Snapshot.textIn_between stands.opens headerStart stands.closes closingEnd
    simp only [List.append_assoc, List.append_nil, List.cons_append]
  · dsimp only [Declaration.ofBlock]
    rw [bodyLine]
    exact stands.linesCut.textIn_eq
  · intro number found
    rcases stands.linesCut.lineText?_body found with empty | ⟨before, inDocument⟩
    · cases empty
    · exact closesFirst.earliest _ (by omega) before inDocument

end ParsedDocument

/-- In a document with fewer than `2 ^ 32` lines and fewer than `2 ^ 32` units on each, the ranges
of every declaration are nested and read as its name, its lines and its body, and each declaration
ends on an earlier line than the next one starts. -/
theorem declaration_ranges_nest_and_read
    (keyword : Keyword) (id : TreeId) {document : Snapshot} (fits : Text.FitsLines document.text) :
    (∀ declaration ∈ (SyntaxTree.parse keyword id document).declarations,
      declaration.Nested ∧
        ∃ head header body closing rest,
          declaration.ReadsAs keyword document head header body closing rest) ∧
      (SyntaxTree.parse keyword id document).declarations.Pairwise fun left right =>
        left.fullRange.finish.line < right.fullRange.start.line := by
  refine ⟨?_, SyntaxTree.pairwise_declarations_parse keyword id document⟩
  intro declaration declared
  exact ⟨nested_of_mem_parse fits.lines declared, exists_readsAs fits declared⟩

/-- A document with a keyword of two units, terminators of both kinds, one of them missing, and a body
that has characters of all sizes and lines that only look like closing lines. -/
def wideLetters : Snapshot :=
  { uri := ⟨['a'], Eq.refl true⟩
    languageId := []
    version := 1
    text := ("\x7d\r\n𝔣 ab \t\x7b é\r\né𝔣\x7d\r\n\n \x7d\n\x7d\r\n𝔣 c\x7b\n" ++
      "\x7d\r").toList }

theorem wideLetters_ranges_nest_and_read :
    let keyword : Keyword := ⟨"𝔣".toList, Eq.refl true⟩
    let declarations := (SyntaxTree.parse keyword ⟨0⟩ wideLetters).declarations
    Text.FitsLines wideLetters.text ∧
      declarations.map Declaration.name = ["ab".toList, "c".toList] ∧
      ∀ declaration ∈ declarations,
        declaration.Nested ∧
          ∃ head header body closing rest,
            declaration.ReadsAs keyword wideLetters head header body closing rest := by
  intro keyword declarations
  have fits : Text.FitsLines wideLetters.text := Text.FitsPositions.fitsLines (by decide)
  exact ⟨fits, by decide +kernel, (declaration_ranges_nest_and_read keyword ⟨0⟩ fits).1⟩

end CallHierarchy
