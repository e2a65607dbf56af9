import CallHierarchy.Proofs.Declaration.Blocks
import CallHierarchy.Proofs.Document.Lines

/-!
The grammar of declarations, and that parsing accepts exactly it. A header line is described by its
parts, and the blocks of a document by what stands on which line: every block goes from a header to
the first closing line after it, and every header lies in a block, unless it stands behind all blocks
and no closing line follows the first such header. There is one list of blocks of this kind, and the
declarations of the parse are made of it.
-/

namespace CallHierarchy

/-- The characters `A` to `Z`, `a` to `z`, `0` to `9` and `_`. -/
def NameCharacter (character : Char) : Prop :=
  ('A' ≤ character ∧ character ≤ 'Z') ∨ ('a' ≤ character ∧ character ≤ 'z') ∨
    ('0' ≤ character ∧ character ≤ '9') ∨ character = '_'

/-- The header lines of a name: the keyword, one space, the name as a run of name characters that
does not go on behind it, any blanks, an opening brace, and anything after it. -/
def IsHeader (keyword : Keyword) (line name : Text) : Prop :=
  ∃ blanks rest,
    line = keyword.text ++ ' ' :: (name ++ (blanks ++ '\x7b' :: rest)) ∧
      name ≠ [] ∧ (∀ character ∈ name, NameCharacter character) ∧
      (∀ character ∈ (blanks ++ '\x7b' :: rest).head?, ¬ NameCharacter character) ∧
      ∀ character ∈ blanks, Text.isBlank character = true

theorem isNameCharacter_iff
    (character : Char) :
    isNameCharacter character = true ↔ NameCharacter character := by
  have alphanumeric : character.isAlphanum =
      (character.isUpper || character.isLower || character.isDigit) := rfl
  have upper : character.isUpper = decide ('A' ≤ character ∧ character ≤ 'Z') := rfl
  have lower : character.isLower = (decide ('a' ≤ character) && decide (character ≤ 'z')) := rfl
  have digit : character.isDigit = (decide ('0' ≤ character) && decide (character ≤ '9')) := rfl
  simp only [isNameCharacter, NameCharacter, alphanumeric, upper, lower, digit, Bool.or_eq_true,
    Bool.and_eq_true, decide_eq_true_eq, beq_iff_eq, or_assoc]

theorem Text.after?_append
    (beginning rest : Text) :
    Text.after? beginning (beginning ++ rest) = some rest := by
  induction beginning with
  | nil => simp [Text.after?]
  | cons first beginning inductionHypothesis =>
      rw [List.cons_append, Text.after?, if_pos rfl, inductionHypothesis]

theorem Text.eq_append_of_after?
    {beginning text rest : Text} (found : Text.after? beginning text = some rest) :
    text = beginning ++ rest := by
  induction beginning generalizing text with
  | nil =>
      rw [Text.after?, Option.some_inj] at found
      exact found
  | cons expected beginning inductionHypothesis =>
      cases text with
      | nil => cases found
      | cons first text =>
          rw [Text.after?] at found
          split at found
          · rename_i same
            rw [same, List.cons_append, inductionHypothesis found]
          · cases found

theorem takeWhile_dropWhile_of_head?
    {p : Char → Bool} {text : Text} (stops : ∀ character ∈ text.head?, p character = false) :
    text.takeWhile p = [] ∧ text.dropWhile p = text := by
  cases text with
  | nil => exact ⟨rfl, rfl⟩
  | cons first rest =>
      have stopped := stops first rfl
      simp [stopped]

theorem isHeader_of_headerName?
    {keyword : Keyword} {line name : Text} (named : headerName? keyword line = some name) :
    IsHeader keyword line name := by
  have isName := isName_of_headerName? named
  obtain ⟨rest, found, restNamed⟩ := Option.bind_eq_some_iff.1 named
  dsimp only at restNamed
  split at restNamed
  · cases restNamed
  · rename_i accepted
    cases restNamed
    simp only [Bool.or_eq_true, decide_eq_true_eq, not_or, not_not] at accepted
    obtain ⟨later, braceEq⟩ := List.head?_eq_some_iff.1 accepted.2
    have behindEq : (rest.dropWhile isNameCharacter).takeWhile Text.isBlank ++ '\x7b' :: later =
        rest.dropWhile isNameCharacter := by
      rw [← braceEq, List.takeWhile_append_dropWhile]
    refine ⟨(rest.dropWhile isNameCharacter).takeWhile Text.isBlank, later, ?_,
      isName.nonempty, ?_, ?_, ?_⟩
    · rw [behindEq, List.takeWhile_append_dropWhile, Text.eq_append_of_after? found,
        List.append_assoc, List.singleton_append]
    · intro character member
      exact (isNameCharacter_iff character).1 (isName.characters character member)
    · intro character isHead
      rw [behindEq] at isHead
      have stopped := List.head?_dropWhile_not isNameCharacter rest
      rw [isHead] at stopped
      rw [← isNameCharacter_iff, Bool.not_eq_true]
      exact stopped
    · intro character member
      exact List.mem_takeWhile_imp member

theorem headerName?_of_isHeader
    {keyword : Keyword} {line name : Text} (header : IsHeader keyword line name) :
    headerName? keyword line = some name := by
  obtain ⟨blanks, rest, rfl, nonempty, characters, stops, areBlank⟩ := header
  have found : Text.after? (keyword.text ++ [' '])
      (keyword.text ++ ' ' :: (name ++ (blanks ++ '\x7b' :: rest))) =
        some (name ++ (blanks ++ '\x7b' :: rest)) := by
    have shape := Text.after?_append (keyword.text ++ [' ']) (name ++ (blanks ++ '\x7b' :: rest))
    rwa [List.append_assoc, List.singleton_append] at shape
  have areName : ∀ character ∈ name, isNameCharacter character = true := by
    intro character member
    exact (isNameCharacter_iff character).2 (characters character member)
  have nameStops : ∀ character ∈ (blanks ++ '\x7b' :: rest).head?,
      isNameCharacter character = false := by
    intro character isHead
    rw [← Bool.not_eq_true, isNameCharacter_iff]
    exact stops character isHead
  obtain ⟨nothingTaken, nothingDropped⟩ := takeWhile_dropWhile_of_head? nameStops
  have takenEq : (name ++ (blanks ++ '\x7b' :: rest)).takeWhile isNameCharacter = name := by
    rw [List.takeWhile_append_of_pos areName, nothingTaken, List.append_nil]
  have droppedEq : (name ++ (blanks ++ '\x7b' :: rest)).dropWhile isNameCharacter =
      blanks ++ '\x7b' :: rest := by
    rw [List.dropWhile_append_of_pos areName, nothingDropped]
  have braceEq : (blanks ++ '\x7b' :: rest).dropWhile Text.isBlank = '\x7b' :: rest := by
    have notBlank : Text.isBlank '\x7b' = false := by decide
    rw [List.dropWhile_append_of_pos areBlank, List.dropWhile_cons_of_neg (by simp [notBlank])]
  rw [headerName?, found]
  dsimp only [Option.bind_eq_bind, Option.bind_some]
  rw [takenEq, droppedEq, braceEq]
  simp [nonempty]

/-- Reading a header line and the grammar of header lines agree. -/
theorem headerName?_eq_some_iff
    {keyword : Keyword} {line name : Text} :
    headerName? keyword line = some name ↔ IsHeader keyword line name :=
  ⟨isHeader_of_headerName?, headerName?_of_isHeader⟩

/-! ## Blocks of lines -/

section Lines

variable (keyword : Keyword) (lineText? : Nat → Option Text)

def HeaderAt (line : Nat) (name : Text) : Prop :=
  ∃ text, lineText? line = some text ∧ IsHeader keyword text name

def ClosesAt (line : Nat) : Prop :=
  lineText? line = some ['\x7d']

structure FirstClosing (first last : Nat) : Prop where
  after : first < last
  closes : ClosesAt lineText? last
  earliest : ∀ line, first < line → line < last → ¬ ClosesAt lineText? line

/-- The blocks of the lines from `start` on. -/
structure BlocksFrom (start : Nat) (blocks : List Block) : Prop where
  starts : ∀ block ∈ blocks, start ≤ block.first
  /-- Every block opens with a header of its name. -/
  opens : ∀ block ∈ blocks, HeaderAt keyword lineText? block.first block.name
  /-- Every block closes with the first closing line after its header. -/
  closes : ∀ block ∈ blocks, FirstClosing lineText? block.first block.last
  ordered : blocks.Pairwise fun left right => left.last < right.first
  /-- A header that lies in no block stands behind all of them. -/
  covered : ∀ line name, start ≤ line → HeaderAt keyword lineText? line name →
    (∃ block ∈ blocks, block.first ≤ line ∧ line ≤ block.last) ∨
      ∀ block ∈ blocks, block.last < line
  /-- No closing line follows the first header behind all blocks. -/
  unterminated : ∀ line name, start ≤ line → HeaderAt keyword lineText? line name →
    (∀ block ∈ blocks, block.last < line) →
    (∀ earlier earlierName, start ≤ earlier → earlier < line →
      HeaderAt keyword lineText? earlier earlierName → ∃ block ∈ blocks, earlier ≤ block.last) →
    ∀ later, line < later → ¬ ClosesAt lineText? later

end Lines

section Uniqueness

variable {keyword : Keyword} {lineText? : Nat → Option Text}

theorem headerAt_iff
    {line : Nat} {name : Text} :
    HeaderAt keyword lineText? line name ↔
      (lineText? line).bind (headerName? keyword) = some name := by
  simp only [HeaderAt, Option.bind_eq_some_iff, headerName?_eq_some_iff]

theorem HeaderAt.name_eq
    {line : Nat} {name other : Text}
    (header : HeaderAt keyword lineText? line name)
    (otherHeader : HeaderAt keyword lineText? line other) :
    name = other := by
  rw [headerAt_iff] at header otherHeader
  rw [header, Option.some_inj] at otherHeader
  exact otherHeader

theorem FirstClosing.last_eq
    {first last other : Nat}
    (closing : FirstClosing lineText? first last)
    (otherClosing : FirstClosing lineText? first other) :
    last = other := by
  rcases Nat.lt_trichotomy last other with before | same | behind
  · exact absurd closing.closes (otherClosing.earliest last closing.after before)
  · exact same
  · exact absurd otherClosing.closes (closing.earliest other otherClosing.after behind)

/-- Where no header is ever closed there are no blocks. -/
theorem blocksFrom_iff_of_never_closed
    {start : Nat} {blocks : List Block}
    (neverClosed : ∀ line name, start ≤ line → HeaderAt keyword lineText? line name →
      ∀ later, line < later → ¬ ClosesAt lineText? later) :
    BlocksFrom keyword lineText? start blocks ↔ [] = blocks := by
  constructor
  · intro parsed
    cases blocks with
    | nil => rfl
    | cons block rest =>
        have member : block ∈ block :: rest := List.mem_cons_self
        have closing := parsed.closes block member
        exact absurd closing.closes
          (neverClosed block.first block.name (parsed.starts block member)
            (parsed.opens block member) block.last closing.after)
  · rintro rfl
    exact
      { starts := by simp
        opens := by simp
        closes := by simp
        ordered := List.Pairwise.nil
        covered := by simp
        unterminated := fun line name inside header _ _ => neverClosed line name inside header }

/-- A line that is no header does not matter. -/
theorem blocksFrom_succ_iff
    {start : Nat} {blocks : List Block}
    (noHeader : ∀ name, ¬ HeaderAt keyword lineText? start name) :
    BlocksFrom keyword lineText? start blocks ↔
      BlocksFrom keyword lineText? (start + 1) blocks := by
  have later : ∀ {line name}, start ≤ line → HeaderAt keyword lineText? line name →
      start + 1 ≤ line := by
    intro line name inside header
    rcases Nat.eq_or_lt_of_le inside with rfl | behind
    · exact absurd header (noHeader name)
    · exact behind
  constructor
  · intro parsed
    exact
      { starts := fun block member =>
          later (parsed.starts block member) (parsed.opens block member)
        opens := parsed.opens
        closes := parsed.closes
        ordered := parsed.ordered
        covered := fun line name inside =>
          parsed.covered line name (Nat.le_of_succ_le inside)
        unterminated := fun line name inside header behind isFirst =>
          parsed.unterminated line name (Nat.le_of_succ_le inside) header behind
            fun earlier earlierName earlierInside before earlierHeader =>
              isFirst earlier earlierName (later earlierInside earlierHeader) before
                earlierHeader }
  · intro parsed
    exact
      { starts := fun block member => Nat.le_of_succ_le (parsed.starts block member)
        opens := parsed.opens
        closes := parsed.closes
        ordered := parsed.ordered
        covered := fun line name inside header =>
          parsed.covered line name (later inside header) header
        unterminated := fun line name inside header behind isFirst =>
          parsed.unterminated line name (later inside header) header behind
            fun earlier earlierName earlierInside =>
              isFirst earlier earlierName (Nat.le_of_succ_le earlierInside) }

/-- A header that is closed opens the first block. -/
theorem BlocksFrom.exists_cons
    {first last : Nat} {name : Text} {blocks : List Block}
    (parsed : BlocksFrom keyword lineText? first blocks)
    (header : HeaderAt keyword lineText? first name)
    (closing : FirstClosing lineText? first last) :
    ∃ later, blocks = ⟨name, first, last⟩ :: later := by
  rcases parsed.covered first name (Nat.le_refl _) header with
    ⟨block, member, before, _⟩ | behind
  · cases blocks with
    | nil => cases member
    | cons head later =>
        have headStarts := parsed.starts head List.mem_cons_self
        have headHeader := parsed.opens head List.mem_cons_self
        have headClosing := parsed.closes head List.mem_cons_self
        have headFirst : head.first = first := by
          rcases List.mem_cons.1 member with rfl | inLater
          · exact Nat.le_antisymm before headStarts
          · have apart := (List.pairwise_cons.1 parsed.ordered).1 block inLater
            have after := headClosing.after
            omega
        rw [headFirst] at headHeader headClosing
        have headEq : head = ⟨name, first, last⟩ := by
          obtain ⟨headName, _, headLast⟩ := head
          rw [← headHeader.name_eq header, ← headClosing.last_eq closing, ← headFirst]
        exact ⟨later, by rw [headEq]⟩
  · have noEarlier : ∀ earlier earlierName, first ≤ earlier → earlier < first →
        HeaderAt keyword lineText? earlier earlierName →
          ∃ block ∈ blocks, earlier ≤ block.last := by
      intro earlier _ inside before
      omega
    exact absurd closing.closes
      (parsed.unterminated first name (Nat.le_refl _) header behind noEarlier last
        closing.after)

/-- Behind the first block come the blocks of the lines behind it. -/
theorem BlocksFrom.tail
    {start : Nat} {block : Block} {later : List Block}
    (parsed : BlocksFrom keyword lineText? start (block :: later)) :
    BlocksFrom keyword lineText? (block.last + 1) later := by
  obtain ⟨blockBefore, laterOrdered⟩ := List.pairwise_cons.1 parsed.ordered
  have startBefore : start ≤ block.last :=
    Nat.le_trans (parsed.starts block List.mem_cons_self)
      (Nat.le_of_lt (parsed.closes block List.mem_cons_self).after)
  refine
    { starts := blockBefore
      opens := fun other member => parsed.opens other (List.mem_cons_of_mem block member)
      closes := fun other member => parsed.closes other (List.mem_cons_of_mem block member)
      ordered := laterOrdered
      covered := ?_
      unterminated := ?_ }
  · intro line name inside header
    rcases parsed.covered line name (by omega) header with
      ⟨other, member, opened, notClosed⟩ | behind
    · rcases List.mem_cons.1 member with rfl | inLater
      · omega
      · exact Or.inl ⟨other, inLater, opened, notClosed⟩
    · exact Or.inr fun other member => behind other (List.mem_cons_of_mem block member)
  · intro line name inside header behind isFirst
    apply parsed.unterminated line name (by omega) header
    · exact List.forall_mem_cons.2 ⟨inside, behind⟩
    · intro earlier earlierName earlierInside before earlierHeader
      by_cases inBlock : earlier ≤ block.last
      · exact ⟨block, List.mem_cons_self, inBlock⟩
      · obtain ⟨other, member, notBehind⟩ :=
          isFirst earlier earlierName (by omega) before earlierHeader
        exact ⟨other, List.mem_cons_of_mem block member, notBehind⟩

theorem BlocksFrom.cons
    {first last : Nat} {name : Text} {later : List Block}
    (header : HeaderAt keyword lineText? first name)
    (closing : FirstClosing lineText? first last)
    (parsed : BlocksFrom keyword lineText? (last + 1) later) :
    BlocksFrom keyword lineText? first (⟨name, first, last⟩ :: later) := by
  have after := closing.after
  refine
    { starts := List.forall_mem_cons.2 ⟨Nat.le_refl first, ?_⟩
      opens := List.forall_mem_cons.2 ⟨header, parsed.opens⟩
      closes := List.forall_mem_cons.2 ⟨closing, parsed.closes⟩
      ordered := List.pairwise_cons.2 ⟨parsed.starts, parsed.ordered⟩
      covered := ?_
      unterminated := ?_ }
  · intro block member
    have starts := parsed.starts block member
    omega
  · intro line other inside otherHeader
    by_cases inBlock : line ≤ last
    · exact Or.inl ⟨⟨name, first, last⟩, List.mem_cons_self, inside, inBlock⟩
    · rcases parsed.covered line other (by omega) otherHeader with
        ⟨block, member, covers⟩ | behind
      · exact Or.inl ⟨block, List.mem_cons_of_mem _ member, covers⟩
      · exact Or.inr (List.forall_mem_cons.2 ⟨Nat.lt_of_not_le inBlock, behind⟩)
  · intro line other _ otherHeader behind isFirst
    obtain ⟨behindBlock, behindLater⟩ := List.forall_mem_cons.1 behind
    apply parsed.unterminated line other behindBlock otherHeader behindLater
    intro earlier earlierName earlierInside before earlierHeader
    obtain ⟨block, member, notBehind⟩ :=
      isFirst earlier earlierName (by omega) before earlierHeader
    rcases List.mem_cons.1 member with rfl | inLater
    · exact absurd notBehind (by dsimp only; omega)
    · exact ⟨block, inLater, notBehind⟩

end Uniqueness

/-! ## Scanning -/

/-- A header before a line that no line in between closes. -/
structure StillOpen (keyword : Keyword) (lineText? : Nat → Option Text) (line : Nat)
    (opening : Opening) : Prop where
  header : HeaderAt keyword lineText? opening.line opening.name
  before : opening.line < line
  notClosed : ∀ between, opening.line < between → between < line →
    ¬ ClosesAt lineText? between

section Scan

variable {keyword : Keyword} {lineText? : Nat → Option Text} {line : Nat}

theorem HeaderAt.stillOpen
    {name : Text} (header : HeaderAt keyword lineText? line name) :
    StillOpen keyword lineText? (line + 1) ⟨name, line⟩ where
  header := header
  before := Nat.lt_succ_self line
  notClosed _ behind before := absurd behind (Nat.not_lt.2 (Nat.le_of_lt_succ before))

theorem StillOpen.succ
    {opening : Opening} (stillOpen : StillOpen keyword lineText? line opening)
    (staysOpen : ¬ ClosesAt lineText? line) :
    StillOpen keyword lineText? (line + 1) opening where
  header := stillOpen.header
  before := Nat.lt_succ_of_lt stillOpen.before
  notClosed between behind before := by
    rcases Nat.lt_succ_iff_lt_or_eq.1 before with earlier | rfl
    · exact stillOpen.notClosed between behind earlier
    · exact staysOpen

/-- A header that is still open is closed by the next closing line. -/
theorem StillOpen.firstClosing
    {opening : Opening} (stillOpen : StillOpen keyword lineText? line opening)
    (closes : ClosesAt lineText? line) :
    FirstClosing lineText? opening.line line where
  after := stillOpen.before
  closes := closes
  earliest := stillOpen.notClosed

/-- At the end of the lines no header can be closed any more. -/
theorem blocksFrom_iff_of_no_line
    {opening : Option Opening} {blocks : List Block}
    (noLine : ∀ later, line ≤ later → lineText? later = none)
    (stillOpen : ∀ header ∈ opening, StillOpen keyword lineText? line header) :
    BlocksFrom keyword lineText? (scanStart line opening) blocks ↔ [] = blocks := by
  apply blocksFrom_iff_of_never_closed
  intro first name inside header later behind closes
  have laterRead : later < line := by
    by_contra pastEnd
    rw [ClosesAt, noLine later (Nat.le_of_not_lt pastEnd)] at closes
    cases closes
  cases opening with
  | none =>
      have atLine : line ≤ first := inside
      omega
  | some opening =>
      have atOpening : opening.line ≤ first := inside
      exact (stillOpen opening rfl).notClosed later (by omega) laterRead closes

/-- A scan finds the blocks of the lines that it reads; while a header is open, these are the blocks
from that header on. -/
theorem blocksFrom_iff_scanLines
    (lines : List Text) (line : Nat) (opening : Option Opening)
    (read : ∀ number, lineText? (line + number) = lines[number]?)
    (stillOpen : ∀ header ∈ opening, StillOpen keyword lineText? line header)
    (blocks : List Block) :
    BlocksFrom keyword lineText? (scanStart line opening) blocks ↔
      (scanLines keyword lines line opening).closed = blocks := by
  induction lines generalizing line opening blocks with
  | nil =>
      have noLine : ∀ later, line ≤ later → lineText? later = none := by
        intro later inside
        obtain ⟨number, rfl⟩ := Nat.exists_eq_add_of_le inside
        rw [read number, List.getElem?_nil]
      exact blocksFrom_iff_of_no_line noLine stillOpen
  | cons text rest inductionHypothesis =>
      have textAt : lineText? line = some text := by
        have atLine := read 0
        rwa [Nat.add_zero, List.getElem?_cons_zero] at atLine
      have restRead : ∀ number, lineText? (line + 1 + number) = rest[number]? := by
        intro number
        rw [Nat.add_assoc, Nat.add_comm 1, read, List.getElem?_cons_succ]
      cases opening with
      | none =>
          have headerEq : ∀ name, HeaderAt keyword lineText? line name ↔
              headerName? keyword text = some name := by
            intro name
            rw [headerAt_iff, textAt, Option.bind_some]
          rw [scanLines]
          cases named : headerName? keyword text with
          | none =>
              have noHeader : ∀ name, ¬ HeaderAt keyword lineText? line name := by
                intro name header
                rw [headerEq, named] at header
                cases header
              exact (blocksFrom_succ_iff noHeader).trans
                (inductionHypothesis (line + 1) none restRead (by simp) blocks)
          | some name =>
              have header : HeaderAt keyword lineText? line name := (headerEq name).2 named
              apply inductionHypothesis (line + 1) (some ⟨name, line⟩) restRead
              intro other same
              cases same
              exact header.stillOpen
      | some opening =>
          have openHere := stillOpen opening rfl
          by_cases closes : text = closingLine
          · have closing := openHere.firstClosing (textAt.trans (congrArg some closes))
            have later := inductionHypothesis (line + 1) none restRead (by simp)
            rw [scanLines, if_pos closes]
            constructor
            · intro parsed
              obtain ⟨laterBlocks, rfl⟩ := parsed.exists_cons openHere.header closing
              exact congrArg (List.cons _) ((later laterBlocks).1 parsed.tail)
            · rintro rfl
              exact BlocksFrom.cons openHere.header closing ((later _).2 rfl)
          · have staysOpen : ¬ ClosesAt lineText? line := by
              intro closesHere
              rw [ClosesAt, textAt, Option.some_inj] at closesHere
              exact closes closesHere
            rw [scanLines, if_neg closes]
            apply inductionHypothesis (line + 1) (some opening) restRead
            intro other same
            cases same
            exact openHere.succ staysOpen

end Scan

/-- The name of a declaration, the line of its header and its closing line. -/
def Declaration.block (declaration : Declaration) : Block :=
  ⟨declaration.name, declaration.fullRange.start.line, declaration.fullRange.finish.line⟩

theorem SyntaxTree.map_block_declarations_parse
    (keyword : Keyword) (id : TreeId) (document : Snapshot) :
    (parse keyword id document).declarations.map Declaration.block =
      (blocks keyword document).closed := by
  rw [parse, List.map_map]
  exact List.map_id _

/-- The blocks of a document with fewer than `2 ^ 32` lines are what the grammar says. -/
theorem SyntaxTree.blocksFrom_closed
    (keyword : Keyword) {document : Snapshot} (fewLines : document.text.count '\n' + 1 < 2 ^ 32) :
    BlocksFrom keyword document.lineText? 0 (blocks keyword document).closed := by
  apply (blocksFrom_iff_scanLines document.lineTexts 0 none ?_ (by simp) _).2 rfl
  intro number
  rw [Nat.zero_add]
  exact (LineIndex.getElem?_lineTexts_ofText fewLines number).symm

/-- The declarations of a document with fewer than `2 ^ 32` lines are the only list of names, header
lines and closing lines that the grammar allows. -/
theorem parse_accepts_exactly_grammar
    (keyword : Keyword) (id : TreeId) (document : Snapshot)
    (fewLines : document.text.count '\n' + 1 < 2 ^ 32) (blocks : List Block) :
    BlocksFrom keyword document.lineText? 0 blocks ↔
      (SyntaxTree.parse keyword id document).declarations.map Declaration.block = blocks := by
  rw [SyntaxTree.map_block_declarations_parse]
  refine blocksFrom_iff_scanLines document.lineTexts 0 none ?_ (by simp) blocks
  intro number
  rw [Nat.zero_add]
  exact (LineIndex.getElem?_lineTexts_ofText fewLines number).symm

/-- A document with stray closing lines, a header inside a block, a line that only looks like a
header and a header that is never closed. -/
def strayLines : Snapshot :=
  { uri := ⟨['a'], by decide⟩
    languageId := []
    version := 1
    text := ("\x7d\nf.n a\t \x7bx\r\nf.n b \x7b\n\x7d\r\nfxn d \x7b\n\x7d\nf.n c\x7b\n" ++
      " \x7d").toList }

theorem strayLines_accepts_exactly_grammar :
    let keyword : Keyword := ⟨"f.n".toList, by decide⟩
    strayLines.text.count '\n' + 1 < 2 ^ 32 ∧
      ∀ blocks : List Block,
        BlocksFrom keyword strayLines.lineText? 0 blocks ↔ [⟨['a'], 1, 3⟩] = blocks := by
  intro keyword
  have fewLines : strayLines.text.count '\n' + 1 < 2 ^ 32 := by decide +kernel
  have declared : (SyntaxTree.parse keyword ⟨0⟩ strayLines).declarations.map Declaration.block =
      [⟨['a'], 1, 3⟩] := by
    decide +kernel
  refine ⟨fewLines, ?_⟩
  intro blocks
  rw [← declared]
  exact parse_accepts_exactly_grammar keyword ⟨0⟩ strayLines fewLines blocks

end CallHierarchy
